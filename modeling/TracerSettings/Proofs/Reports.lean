import TracerSettings.Proofs.Journal
import TracerSettings.Proofs.Stack.Hits

namespace TracerSettings

namespace Diagnostic

def isMissingCredential : Diagnostic → Bool
  | .missingCredential .. => true
  | _ => false

/-- A diagnostic on one of some settings that is not about a credential it lacks. -/
structure Concerns (settings : List Setting) (d : Diagnostic) : Prop where
  named : ∃ s ∈ settings, d.setting ∈ s.names
  present : d.isMissingCredential = false

variable {settings settings' : List Setting} {d : Diagnostic}

theorem Concerns.mono (h : d.Concerns settings) (hsub : settings ⊆ settings') :
    d.Concerns settings' := by
  obtain ⟨s, hs, hname⟩ := h.named
  exact ⟨⟨s, hsub hs, hname⟩, h.present⟩

theorem concerns_of_key {s : Setting} (hs : s ∈ settings) (hkey : d.setting = s.key)
    (hpresent : d.isMissingCredential = false) : d.Concerns settings :=
  ⟨⟨s, hs, hkey ▸ List.mem_cons_self⟩, hpresent⟩

end Diagnostic

namespace Noted

variable {α β : Type} {settings settings' : List Setting}

def ReportsOn (settings : List Setting) (x : Noted α) : Prop :=
  ∀ d ∈ reports x.notes, d.Concerns settings

theorem ReportsOn.mono {x : Noted α} (h : x.ReportsOn settings) (hsub : settings ⊆ settings') :
    x.ReportsOn settings' :=
  fun d hd => (h d hd).mono hsub

@[simp] theorem reportsOn_pure (a : α) : (pure a : Noted α).ReportsOn settings :=
  fun _ hd => absurd hd List.not_mem_nil

@[simp] theorem reportsOn_bind (x : Noted α) (f : α → Noted β) :
    (x >>= f).ReportsOn settings ↔
      x.ReportsOn settings ∧ (f x.value).ReportsOn settings := by
  rw [ReportsOn, notes_bind, reports_append, List.forall_mem_append]
  rfl

@[simp] theorem reportsOn_map (f : α → β) (x : Noted α) :
    (f <$> x).ReportsOn settings ↔ x.ReportsOn settings := by
  rw [ReportsOn, notes_map, ReportsOn]

theorem reportsOn_foldlM {items : List α} {f : β → α → Noted β}
    (hf : ∀ a ∈ items, ∀ b, (f b a).ReportsOn settings) (b : β) :
    (items.foldlM f b).ReportsOn settings := by
  induction items generalizing b with
  | nil => exact reportsOn_pure b
  | cons a items ih =>
      obtain ⟨ha, hitems⟩ := List.forall_mem_cons.1 hf
      rw [List.foldlM_cons, reportsOn_bind]
      exact ⟨ha b, ih hitems _⟩

@[simp] theorem reportsOn_ite (p : Prop) [Decidable p] (x y : Noted α) :
    (if p then x else y).ReportsOn settings ↔
      if p then x.ReportsOn settings else y.ReportsOn settings := by
  split <;> rfl

@[simp] theorem reportsOn_collect (key value : String) (origin : Origin) :
    (collect key value origin).ReportsOn settings :=
  fun _ hd => absurd hd List.not_mem_nil

@[simp] theorem reportsOn_reportAll (ds : List Diagnostic) :
    (reportAll ds).ReportsOn settings ↔ ∀ d ∈ ds, d.Concerns settings := by
  rw [ReportsOn, reportAll, reports_map_report]

@[simp] theorem reportsOn_report (d : Diagnostic) :
    (report d).ReportsOn settings ↔ d.Concerns settings := by
  rw [show report d = reportAll [d] from rfl, reportsOn_reportAll, List.forall_mem_singleton]

section About

variable {key : String}

def about (key : String) (x : Noted α) : List Diagnostic :=
  (reports x.notes).filter fun d => d.setting = key

@[simp] theorem about_pure (a : α) : (pure a : Noted α).about key = [] := rfl

@[simp] theorem about_bind (x : Noted α) (f : α → Noted β) :
    (x >>= f).about key = x.about key ++ (f x.value).about key := by
  rw [about, notes_bind, reports_append, List.filter_append, about, about]

theorem about_ite (p : Prop) [Decidable p] (x y : Noted α) :
    (if p then x else y).about key = if p then x.about key else y.about key := by
  split <;> rfl

theorem about_collect_cons (a : α) (key' text : String) (origin : Origin) (notes : List Note) :
    about key ⟨a, .collect key' text origin :: notes⟩ = about key ⟨a, notes⟩ := rfl

theorem about_report (a : α) {d : Diagnostic} (h : d.setting = key) :
    about key ⟨a, [.report d]⟩ = [d] :=
  List.filter_cons_of_pos (decide_eq_true h)

theorem ReportsOn.about_eq_nil {x : Noted α} {settings : List Setting} (h : x.ReportsOn settings)
    (hkey : ∀ s ∈ settings, key ∉ s.names) : x.about key = [] := by
  apply List.filter_eq_nil_iff.2
  intro d hd hsetting
  obtain ⟨s, hs, hname⟩ := (h d hd).named
  rw [decide_eq_true_eq] at hsetting
  exact hkey s hs (hsetting ▸ hname)

end About

end Noted

section Readings

variable {settings : List Setting} {s : Setting}

theorem invalidValues_concern (hs : s ∈ settings) {key : String} (hkey : key ∈ s.names)
    (rejected : List Rejected) : ∀ d ∈ invalidValues key rejected, d.Concerns settings := by
  intro d hd
  obtain ⟨r, -, rfl⟩ := List.mem_map.1 hd
  exact ⟨⟨s, hs, hkey⟩, rfl⟩

theorem unrecognizedValues_concern (hs : s ∈ settings) (rejected : List Rejected) :
    ∀ d ∈ unrecognizedValues s.key rejected, d.Concerns settings := by
  intro d hd
  obtain ⟨r, -, rfl⟩ := List.mem_map.1 hd
  exact Diagnostic.concerns_of_key hs rfl rfl

theorem invalidValue_concerns (hs : s ∈ settings) (value reason : String) :
    (Diagnostic.invalidValue s.key value reason).Concerns settings :=
  Diagnostic.concerns_of_key hs rfl rfl

theorem outOfRange_concerns (hs : s ∈ settings) (value range default : String) :
    (Diagnostic.outOfRange s.key value range default).Concerns settings :=
  Diagnostic.concerns_of_key hs rfl rfl

@[simp] theorem accept_reportsOn {α : Type} (hs : s ∈ settings) (r : Reading α) :
    (accept s.key r).ReportsOn settings := by
  simp only [accept, Noted.reportsOn_bind, Noted.reportsOn_reportAll, Noted.reportsOn_pure,
    and_true]
  exact invalidValues_concern hs List.mem_cons_self r.rejected

@[simp] theorem acceptChoice_reportsOn {α : Type} (hs : s ∈ settings) (r : Reading α) :
    (acceptChoice s.key r).ReportsOn settings := by
  simp only [acceptChoice, Noted.reportsOn_bind, Noted.reportsOn_reportAll, Noted.reportsOn_pure,
    and_true]
  exact unrecognizedValues_concern hs r.rejected

end Readings

namespace Scalar

variable {settings : List Setting} {s : Setting} {α : Type}

@[simp] theorem within_reportsOn (hs : s ∈ settings) (kind : Scalar α)
    (low high default value : α) :
    (kind.within s.key low high default value).ReportsOn settings := by
  simp [within, outOfRange_concerns hs]

@[simp] theorem positive_reportsOn (hs : s ∈ settings) (default value : Binary) :
    (positive s.key default value).ReportsOn settings := by
  simp [positive, outOfRange_concerns hs]

end Scalar

namespace Stack

variable {settings : List Setting} (st : Stack) {s : Setting}

@[simp] theorem resolve_reportsOn (s : Setting) : (st.resolve s).ReportsOn settings := by
  unfold resolve
  split <;> simp

@[simp] theorem resolveExcluding_reportsOn (excluded : List Origin) (s : Setting) :
    (st.resolveExcluding excluded s).ReportsOn settings :=
  resolve_reportsOn _ s

@[simp] theorem text?_reportsOn (s : Setting) : (st.text? s).ReportsOn settings := by
  simp [text?]

@[simp] theorem textOutside?_reportsOn (o : Origin) (s : Setting) :
    (st.textOutside? o s).ReportsOn settings := by
  simp [textOutside?]

@[simp] theorem textFrom?_reportsOn (o : Origin) (s : Setting) :
    (st.textFrom? o s).ReportsOn settings := by
  simp [textFrom?]

@[simp] theorem defaulted_reportsOn {α : Type} (s : Setting) (text : String) (default : α) :
    (defaulted s text default).ReportsOn settings := by
  simp [defaulted]

@[simp] theorem textOr_reportsOn (s : Setting) (default : String) :
    (st.textOr s default).ReportsOn settings := by
  simp only [textOr, Noted.reportsOn_bind, text?_reportsOn, true_and]
  split <;> simp

@[simp] theorem list_reportsOn (delimiters : Delimiters) (s : Setting) :
    (st.list delimiters s).ReportsOn settings := by
  simp [list]

@[simp] theorem scalar_reportsOn {α : Type} (hs : s ∈ settings) (kind : Scalar α) (default : α) :
    (st.scalar kind s default).ReportsOn settings := by
  simp only [scalar, Noted.reportsOn_bind, resolve_reportsOn, true_and]
  split
  · simp
  · split
    · simp
    · simp [invalidValue_concerns hs]

@[simp] theorem switch_reportsOn (hs : s ∈ settings) (default : Bool) :
    (st.switch s default).ReportsOn settings := by
  have hswitch? : (st.switch? s).ReportsOn settings := by
    simp only [switch?, Noted.reportsOn_bind, resolve_reportsOn, true_and]
    split
    · simp
    · split
      · simp
      · simp [invalidValue_concerns hs]
  simp only [switch, Noted.reportsOn_bind, hswitch?, true_and]
  split <;> simp

@[simp] theorem choice_reportsOn {α : Type} [Choice α] (hs : s ∈ settings) (default : α) :
    (st.choice s default).ReportsOn settings := by
  simp only [choice, Noted.reportsOn_bind, resolve_reportsOn, true_and]
  split <;> simp [hs]

@[simp] theorem choiceSet_reportsOn {α : Type} [DecidableEq α] [Choice α] (hs : s ∈ settings)
    (delimiters : Delimiters) :
    (st.choiceSet delimiters s : Noted (List α)).ReportsOn settings := by
  simp only [choiceSet, Noted.reportsOn_bind, resolve_reportsOn, true_and]
  split <;> simp [hs]

@[simp] theorem statuses_reportsOn (hs : s ∈ settings) (default : StatusSet) :
    (st.statuses s default).ReportsOn settings := by
  simp only [statuses, Noted.reportsOn_bind, resolve_reportsOn, true_and]
  split <;> simp [hs]

theorem key_mem_of_mem_hits {names : List String} {hit : Hit} (h : hit ∈ st.hits names) :
    hit.key ∈ names := by
  obtain ⟨source, -, hsource⟩ := List.mem_filterMap.1 h
  obtain ⟨⟨name, value⟩, hfirst, rfl⟩ := Option.map_eq_some_iff.1 hsource
  obtain ⟨name', hname', hpair⟩ := List.exists_of_findSome?_eq_some hfirst
  obtain ⟨_, -, heq⟩ := Option.map_eq_some_iff.1 hpair
  obtain ⟨rfl, -⟩ := Prod.mk.inj heq
  exact hname'

@[simp] theorem mergeOnto_reportsOn (hs : s ∈ settings) (read : String → Reading OrderedMap)
    (base : OrderedMap) : (st.mergeOnto read s base).ReportsOn settings := by
  have hcollect (text : String) : (st.collectMerged s.names s.key text).ReportsOn settings := by
    unfold collectMerged
    split <;> simp
  simp only [mergeOnto, Noted.reportsOn_bind, Noted.reportsOn_reportAll, Noted.reportsOn_pure,
    hcollect, and_true]
  intro d hd
  obtain ⟨hit, hhit, hd⟩ := List.mem_flatMap.1 hd
  exact invalidValues_concern hs (st.key_mem_of_mem_hits (List.mem_reverse.1 hhit)) _ d hd

@[simp] theorem mergedMap_reportsOn (hs : s ∈ settings) : (st.mergedMap s).ReportsOn settings :=
  st.mergeOnto_reportsOn hs _ _

theorem mergedTags_reportsOn (mapping : TagMapping) {merged : List Setting}
    (h : merged ⊆ settings) : (st.mergedTags mapping merged).ReportsOn settings :=
  Noted.reportsOn_foldlM (fun _ hs _ => st.mergeOnto_reportsOn (h hs) _ _) .empty

end Stack

section Others

variable {s : Setting} {key : String}

theorem Stack.about_scalar_of_notMem (hkey : key ∉ s.names) (st : Stack) {α : Type}
    (kind : Scalar α) (default : α) : (st.scalar kind s default).about key = [] :=
  (st.scalar_reportsOn (List.mem_singleton_self s) kind default).about_eq_nil
    (List.forall_mem_singleton.2 hkey)

theorem Stack.about_switch_of_notMem (hkey : key ∉ s.names) (st : Stack) (default : Bool) :
    (st.switch s default).about key = [] :=
  (st.switch_reportsOn (List.mem_singleton_self s) default).about_eq_nil
    (List.forall_mem_singleton.2 hkey)

theorem Stack.about_statuses_of_notMem (hkey : key ∉ s.names) (st : Stack) (default : StatusSet) :
    (st.statuses s default).about key = [] :=
  (st.statuses_reportsOn (List.mem_singleton_self s) default).about_eq_nil
    (List.forall_mem_singleton.2 hkey)

theorem Stack.about_mergedTags_of_notMem (hkey : key ∉ s.names) (st : Stack)
    (mapping : TagMapping) : (st.mergedTags mapping [s]).about key = [] :=
  (st.mergedTags_reportsOn mapping (List.Subset.refl [s])).about_eq_nil
    (List.forall_mem_singleton.2 hkey)

theorem Stack.about_list (st : Stack) (delimiters : Delimiters) (s : Setting) :
    (st.list delimiters s).about key = [] :=
  (st.list_reportsOn delimiters s).about_eq_nil (List.forall_mem_nil _)

theorem Scalar.about_positive_of_notMem (hkey : key ∉ s.names) (default value : Binary) :
    (positive s.key default value).about key = [] :=
  (positive_reportsOn (List.mem_singleton_self s) default value).about_eq_nil
    (List.forall_mem_singleton.2 hkey)

end Others

end TracerSettings
