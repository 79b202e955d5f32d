import Mathlib.Data.List.Basic
import TracerSettings.Stack.Typed

namespace TracerSettings

theorem Source.firstPresent_ne_empty {s : Source} {names : List String} {key value : String}
    (h : s.firstPresent names = some (key, value)) : value ≠ "" := by
  obtain ⟨name, _, hname⟩ := List.exists_of_findSome?_eq_some h
  obtain ⟨found, hfound, heq⟩ := Option.map_eq_some_iff.1 hname
  obtain ⟨-, rfl⟩ := Prod.mk.inj heq
  exact present_eq_some hfound

theorem Source.hit?_eq_some {s : Source} {names : List String} {hit : Hit}
    (h : s.hit? names = some hit) : hit.origin = s.origin ∧ hit.value ≠ "" := by
  obtain ⟨⟨key, value⟩, hfound, rfl⟩ := Option.map_eq_some_iff.1 h
  exact ⟨rfl, firstPresent_ne_empty hfound⟩

namespace Stack

theorem hits_admitting (st : Stack) (admits : Origin → Bool) (names : List String) :
    (st.admitting admits).hits names = (st.hits names).filter fun hit => admits hit.origin := by
  rw [hits, admitting, List.filterMap_filter, hits, List.filter_filterMap]
  apply List.filterMap_congr
  intro s _
  cases h : s.hit? names with
  | none => simp
  | some hit => simp [(Source.hit?_eq_some h).1, Option.filter]

theorem admitting_true (st : Stack) : (st.admitting fun _ => true) = st :=
  congrArg mk (List.filter_true st.sources)

theorem value_text? (st : Stack) (s : Setting) :
    (st.text? s).value = (st.find? s.names).map Hit.value := by
  rw [← value_resolve]
  rfl

theorem resolveExcluding_singleton (st : Stack) (o : Origin) (s : Setting) :
    st.resolveExcluding [o] s = (st.admitting (· != o)).resolve s := by
  have hadmits : (fun x => !List.contains [o] x) = fun x => x != o := by
    funext x
    rw [List.contains_cons, List.contains_nil, Bool.or_false, bne]
  rw [resolveExcluding, hadmits]

theorem textOutside?_eq (st : Stack) (o : Origin) (s : Setting) :
    st.textOutside? o s = (st.admitting (· != o)).text? s := by
  rw [textOutside?, resolveExcluding_singleton, text?]

theorem textFrom?_eq (st : Stack) (o : Origin) (s : Setting) :
    st.textFrom? o s = (st.admitting (· == o)).text? s := by
  have hadmitting : (st.admitting fun x => !(st.origins.filter (· != o)).contains x) =
      st.admitting (· == o) := by
    apply congrArg Stack.mk
    apply List.filter_congr
    intro t ht
    -- The origin of a source of the stack is among those of the stack.
    have horigin : t.origin ∈ st.origins := List.mem_map_of_mem ht
    by_cases ho : t.origin = o
    · simp [ho]
    · simp [ho, horigin]
  rw [textFrom?, resolveExcluding, hadmitting, text?]

theorem value_list (st : Stack) (delimiters : Delimiters) (s : Setting) :
    (st.list delimiters s).value =
      ((st.find? s.names).map (tokens delimiters ∘ Hit.value)).getD [] := by
  rw [← Option.map_map, ← value_text?]
  rfl

theorem value_set (st : Stack) (s : Setting) :
    (st.set s).value = ((st.find? s.names).map (tokenSet .comma ∘ Hit.value)).getD [] := by
  rw [← Option.map_map, ← value_text?]
  rfl

theorem value_ne_empty_of_mem_hits {st : Stack} {names : List String} {hit : Hit}
    (h : hit ∈ st.hits names) : hit.value ≠ "" := by
  obtain ⟨s, _, hs⟩ := List.mem_filterMap.1 h
  exact (Source.hit?_eq_some hs).2

theorem text?_ne_empty {st : Stack} {s : Setting} {value : String}
    (h : (st.text? s).value = some value) : value ≠ "" := by
  rw [value_text?, Option.map_eq_some_iff] at h
  obtain ⟨hit, hhit, rfl⟩ := h
  exact value_ne_empty_of_mem_hits (List.mem_of_head? hhit)

theorem text?_of_hits_nil {st : Stack} {s : Setting} (h : st.hits s.names = []) :
    st.text? s = pure none := by
  rw [text?, resolve, find?, h]
  rfl

theorem text?_of_hits_cons {st : Stack} {s : Setting} {hit : Hit} {rest : List Hit}
    (h : st.hits s.names = hit :: rest) :
    st.text? s = ⟨some hit.value, [.collect s.key hit.value hit.origin]⟩ := by
  rw [text?, resolve, find?, h]
  rfl

section Congruence

variable {st st' : Stack} {s : Setting}

theorem admitting_congr (h : st.hits s.names = st'.hits s.names) (admits : Origin → Bool) :
    (st.admitting admits).hits s.names = (st'.admitting admits).hits s.names := by
  rw [hits_admitting, h, hits_admitting]

theorem find?_congr (h : st.hits s.names = st'.hits s.names) :
    st.find? s.names = st'.find? s.names := by
  rw [find?, h, find?]

theorem isSet_congr (h : st.hits s.names = st'.hits s.names) : st.isSet s = st'.isSet s := by
  rw [isSet, find?_congr h, isSet]

theorem resolve_congr (h : st.hits s.names = st'.hits s.names) : st.resolve s = st'.resolve s := by
  rw [resolve, find?_congr h, resolve]

theorem resolveExcluding_congr (h : st.hits s.names = st'.hits s.names) (excluded : List Origin) :
    st.resolveExcluding excluded s = st'.resolveExcluding excluded s :=
  resolve_congr (admitting_congr h _)

theorem text?_congr (h : st.hits s.names = st'.hits s.names) : st.text? s = st'.text? s := by
  rw [text?, resolve_congr h, text?]

theorem textOr_congr (h : st.hits s.names = st'.hits s.names) (default : String) :
    st.textOr s default = st'.textOr s default := by
  rw [textOr, text?_congr h, textOr]

theorem scalar_congr {α : Type} (h : st.hits s.names = st'.hits s.names) (kind : Scalar α)
    (default : α) : st.scalar kind s default = st'.scalar kind s default := by
  rw [scalar, resolve_congr h, scalar]

theorem switch_congr (h : st.hits s.names = st'.hits s.names) (default : Bool) :
    st.switch s default = st'.switch s default := by
  have hswitch? : st.switch? s = st'.switch? s := by rw [switch?, resolve_congr h, switch?]
  rw [switch, hswitch?, switch]

theorem choice_congr {α : Type} [Choice α] (h : st.hits s.names = st'.hits s.names) (default : α) :
    st.choice s default = st'.choice s default := by
  rw [choice, resolve_congr h, choice]

theorem choiceSet_congr {α : Type} [DecidableEq α] [Choice α]
    (h : st.hits s.names = st'.hits s.names) (delimiters : Delimiters) :
    (st.choiceSet delimiters s : Noted (List α)) = st'.choiceSet delimiters s := by
  rw [choiceSet, resolve_congr h, choiceSet]

theorem list_congr (h : st.hits s.names = st'.hits s.names) (delimiters : Delimiters) :
    st.list delimiters s = st'.list delimiters s := by
  rw [list, text?_congr h, list]

theorem set_congr (h : st.hits s.names = st'.hits s.names) :
    st.set s = st'.set s := by
  rw [set, text?_congr h, set]

theorem statuses_congr (h : st.hits s.names = st'.hits s.names) (default : StatusSet) :
    st.statuses s default = st'.statuses s default := by
  rw [statuses, resolve_congr h, statuses]

theorem mergeOnto_congr (h : st.hits s.names = st'.hits s.names)
    (read : String → Reading OrderedMap) (base : OrderedMap) :
    st.mergeOnto read s base = st'.mergeOnto read s base := by
  have hlayers : st.layers s.names = st'.layers s.names := by rw [layers, h, layers]
  have hcollect (text : String) :
      st.collectMerged s.names s.key text = st'.collectMerged s.names s.key text := by
    rw [collectMerged, find?_congr h, collectMerged]
  simp only [mergeOnto, hlayers, hcollect]

theorem mergedMap_congr (h : st.hits s.names = st'.hits s.names) :
    st.mergedMap s = st'.mergedMap s :=
  mergeOnto_congr h _ _

theorem mergedTags_congr {settings : List Setting}
    (h : ∀ s ∈ settings, st.hits s.names = st'.hits s.names) (mapping : TagMapping) :
    st.mergedTags mapping settings = st'.mergedTags mapping settings := by
  -- The map that has come together so far differs from step to step.
  have hfold (base : OrderedMap) :
      settings.foldlM (fun m s => st.mergeOnto mapping.read s m) base =
        settings.foldlM (fun m s => st'.mergeOnto mapping.read s m) base := by
    induction settings generalizing base with
    | nil => rfl
    | cons s rest ih =>
        obtain ⟨hs, hrest⟩ := List.forall_mem_cons.1 h
        rw [List.foldlM_cons, List.foldlM_cons, mergeOnto_congr hs]
        simp only [ih hrest]
  exact hfold .empty

end Congruence

end Stack

end TracerSettings
