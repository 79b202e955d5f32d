import TracerSettings.Proofs.Stack.FirstHit

namespace TracerSettings

/-- How a setting is read: by its first hit, perhaps with a built-in value, or over all hits. -/
inductive Way where
  | firstHit (builtIn : Option String)
  | merged
  deriving DecidableEq, Repr

def Way.builtIn? : Way → Option String
  | .firstHit builtIn => builtIn
  | .merged => none

structure Row where
  setting : Setting
  way : Way
  deriving DecidableEq, Repr

namespace Stack

/-- A value with an origin is what a stack has for the setting of a row. -/
inductive Accounts (st : Stack) : Row → String → Origin → Prop
  | found {s : Setting} {hit : Hit} (builtIn : Option String) (h : st.find? s.names = some hit) :
      Accounts st ⟨s, .firstHit builtIn⟩ hit.value hit.origin
  | builtIn {s : Setting} {text : String} (h : st.find? s.names = none) :
      Accounts st ⟨s, .firstHit (some text)⟩ text .default
  | merged {s : Setting} {hit : Hit} (text : String) (h : st.find? s.names = some hit) :
      Accounts st ⟨s, .merged⟩ text hit.origin

def AccountsIn (st : Stack) (rows : List Row) (key value : String) (origin : Origin) : Prop :=
  ∃ row ∈ rows, row.setting.key = key ∧ st.Accounts row value origin

end Stack

namespace Noted

variable {α β : Type} {P Q : String → String → Origin → Prop} {seen : List String}

/-- What a run collects first of every setting that is not in `seen` has a property. -/
def Collects (seen : List String) (P : String → String → Origin → Prop) (x : Noted α) : Prop :=
  ∀ entry ∈ firsts Prod.fst seen (collections x.notes), P entry.1 entry.2.value entry.2.origin

def seenAfter (seen : List String) (x : Noted α) : List String :=
  seen ++ (firsts Prod.fst seen (collections x.notes)).map Prod.fst

theorem mem_seenAfter {x : Noted α} {key : String} :
    key ∈ x.seenAfter seen ↔
      key ∈ seen ∨ ∃ value origin, .collect key value origin ∈ x.notes := by
  have hkey : key ∈ (collections x.notes).map Prod.fst ↔
      ∃ value origin, .collect key value origin ∈ x.notes := by
    rw [List.mem_map]
    constructor
    · rintro ⟨⟨_, c⟩, hmem, rfl⟩
      exact ⟨c.value, c.origin, mem_collections.1 hmem⟩
    · rintro ⟨value, origin, hmem⟩
      exact ⟨(key, ⟨value, origin⟩), mem_collections.2 hmem, rfl⟩
  rw [seenAfter, List.mem_append, mem_map_firsts, hkey]
  by_cases h : key ∈ seen
  · simp [h]
  · simp [h]

theorem Collects.mono {x : Noted α} (h : x.Collects seen P)
    (hsub : ∀ key value origin, P key value origin → Q key value origin) : x.Collects seen Q :=
  fun _ hmem => hsub _ _ _ (h _ hmem)

theorem collects_of_forall {x : Noted α}
    (h : ∀ key value origin, .collect key value origin ∈ x.notes → P key value origin) :
    x.Collects seen P :=
  fun _ hmem => h _ _ _ (mem_collections.1 (mem_of_mem_firsts hmem))

theorem Collects.exists_of_mem {x : Noted α} (h : x.Collects [] P) {key value : String}
    {origin : Origin} (hmem : .collect key value origin ∈ x.notes) :
    ∃ value origin, P key value origin := by
  have hcollected : (key, ⟨value, origin⟩) ∈ collections x.notes := mem_collections.2 hmem
  have hkey : key ∈ (firsts Prod.fst [] (collections x.notes)).map Prod.fst :=
    mem_map_firsts.2 ⟨List.not_mem_nil, List.mem_map_of_mem hcollected⟩
  obtain ⟨entry, hentry, rfl⟩ := List.mem_map.1 hkey
  exact ⟨_, _, h entry hentry⟩

@[simp] theorem collects_pure (a : α) : (pure a : Noted α).Collects seen P :=
  fun _ hmem => absurd hmem List.not_mem_nil

@[simp] theorem collects_bind (x : Noted α) (f : α → Noted β) :
    (x >>= f).Collects seen P ↔
      x.Collects seen P ∧ (f x.value).Collects (x.seenAfter seen) P := by
  simp only [Collects, seenAfter, notes_bind, collections_append, firsts_append,
    List.forall_mem_append]

@[simp] theorem collects_map (f : α → β) (x : Noted α) :
    (f <$> x).Collects seen P ↔ x.Collects seen P := by
  rw [Collects, notes_map, Collects]

@[simp] theorem collects_ite (p : Prop) [Decidable p] (x y : Noted α) :
    (if p then x else y).Collects seen P ↔ if p then x.Collects seen P else y.Collects seen P := by
  split <;> rfl

theorem collects_of_reports {x : Noted α} {ds : List Diagnostic} (h : x.notes = ds.map .report) :
    x.Collects seen P := by
  rw [Collects, h, collections_map_report]
  exact fun _ hmem => absurd hmem List.not_mem_nil

@[simp] theorem collects_reportAll (ds : List Diagnostic) : (reportAll ds).Collects seen P :=
  collects_of_reports rfl

@[simp] theorem collects_report (d : Diagnostic) : (report d).Collects seen P :=
  collects_reportAll [d]

@[simp] theorem collects_collect (key value : String) (origin : Origin) :
    (collect key value origin).Collects seen P ↔ key ∉ seen → P key value origin := by
  have hcollections : collections (collect key value origin).notes = [(key, ⟨value, origin⟩)] := rfl
  rw [Collects, hcollections]
  by_cases hkey : key ∈ seen
  · rw [firsts_cons_of_mem [] hkey]
    simp [firsts, hkey]
  · rw [firsts_cons_of_notMem [] hkey]
    simp [firsts, hkey]

@[simp] theorem collects_accept {α : Type} (setting : String) (r : Reading α) :
    (accept setting r).Collects seen P := by
  simp [accept]

@[simp] theorem collects_acceptChoice {α : Type} (setting : String) (r : Reading α) :
    (acceptChoice setting r).Collects seen P := by
  simp [acceptChoice]

@[simp] theorem collects_within {α : Type} (kind : Scalar α) (setting : String)
    (low high default value : α) :
    (kind.within setting low high default value).Collects seen P := by
  simp [Scalar.within]

@[simp] theorem collects_positive (setting : String) (default value : Binary) :
    (Scalar.positive setting default value).Collects seen P := by
  simp [Scalar.positive]

end Noted

namespace Stack

variable {rows : List Row} {s : Setting} {seen : List String} (st : Stack)

theorem accountsIn_of_found {builtIn : Option String} (h : ⟨s, .firstHit builtIn⟩ ∈ rows)
    {hit : Hit} (hfind : st.find? s.names = some hit) :
    st.AccountsIn rows s.key hit.value hit.origin :=
  ⟨_, h, rfl, .found builtIn hfind⟩

theorem resolve_collects {builtIn : Option String} (h : ⟨s, .firstHit builtIn⟩ ∈ rows) :
    (st.resolve s).Collects seen (st.AccountsIn rows) := by
  cases hfind : st.find? s.names with
  | none => simp only [resolve, hfind, Noted.collects_pure]
  | some hit =>
      simp only [resolve, hfind, Noted.collects_bind, Noted.collects_collect, Noted.collects_pure,
        and_true]
      exact fun _ => st.accountsIn_of_found h hfind

@[simp] theorem text?_collects (h : ⟨s, .firstHit none⟩ ∈ rows) :
    (st.text? s).Collects seen (st.AccountsIn rows) := by
  simp only [text?, Noted.collects_bind, st.resolve_collects h, Noted.collects_pure, and_self]

theorem defaulted_collects {α : Type} {text : String} (h : ⟨s, .firstHit (some text)⟩ ∈ rows)
    (hfind : s.key ∉ seen → st.find? s.names = none) (default : α) :
    (defaulted s text default).Collects seen (st.AccountsIn rows) := by
  simp only [defaulted, Noted.collects_bind, Noted.collects_collect, Noted.collects_pure, and_true]
  exact fun hnew => ⟨_, h, rfl, .builtIn (hfind hnew)⟩

@[simp] theorem textOr_collects {default : String} (h : ⟨s, .firstHit (some default)⟩ ∈ rows) :
    (st.textOr s default).Collects seen (st.AccountsIn rows) := by
  simp only [textOr, text?, Noted.collects_bind, Noted.value_bind, Noted.value_pure,
    Noted.collects_pure, st.resolve_collects h, value_resolve, true_and]
  cases hfind : st.find? s.names with
  | none => exact st.defaulted_collects h (fun _ => hfind) default
  | some hit => exact Noted.collects_pure hit.value

@[simp] theorem list_collects (h : ⟨s, .firstHit none⟩ ∈ rows) (delimiters : Delimiters) :
    (st.list delimiters s).Collects seen (st.AccountsIn rows) := by
  simp [list, h]

@[simp] theorem scalar_collects {α : Type} {kind : Scalar α} {default : α}
    (h : ⟨s, .firstHit (some (kind.text default))⟩ ∈ rows) :
    (st.scalar kind s default).Collects seen (st.AccountsIn rows) := by
  simp only [scalar, Noted.collects_bind, st.resolve_collects h, value_resolve, true_and]
  cases hfind : st.find? s.names with
  | none => exact st.defaulted_collects h (fun _ => hfind) default
  | some hit =>
      simp only
      split <;> simp

theorem collect_mem_switch? {hit : Hit} (hfind : st.find? s.names = some hit) :
    .collect s.key hit.value hit.origin ∈ (st.switch? s).notes := by
  rw [switch?, Noted.notes_bind, notes_resolve, value_resolve, hfind]
  exact List.mem_append_left _ List.mem_cons_self

@[simp] theorem switch_collects {default : Bool}
    (h : ⟨s, .firstHit (some (switchText default))⟩ ∈ rows) :
    (st.switch s default).Collects seen (st.AccountsIn rows) := by
  have hswitch? : (st.switch? s).Collects seen (st.AccountsIn rows) := by
    simp only [switch?, Noted.collects_bind, st.resolve_collects h, true_and]
    split
    · exact Noted.collects_pure none
    · split <;> simp
  simp only [switch, Noted.collects_bind, hswitch?, true_and]
  split
  · exact Noted.collects_pure _
  · apply st.defaulted_collects h
    intro hnew
    cases hfind : st.find? s.names with
    | none => rfl
    | some hit =>
        refine absurd (Noted.mem_seenAfter.2 (.inr ⟨hit.value, hit.origin, ?_⟩)) hnew
        exact st.collect_mem_switch? hfind

@[simp] theorem choice_collects {α : Type} [Choice α] {default : α}
    (h : ⟨s, .firstHit (some (Choice.name default))⟩ ∈ rows) :
    (st.choice s default).Collects seen (st.AccountsIn rows) := by
  simp only [choice, Noted.collects_bind, st.resolve_collects h, value_resolve, true_and]
  cases hfind : st.find? s.names with
  | none => exact st.defaulted_collects h (fun _ => hfind) default
  | some hit => exact Noted.collects_acceptChoice _ _

@[simp] theorem choiceSet_collects {α : Type} [DecidableEq α] [Choice α]
    (h : ⟨s, .firstHit none⟩ ∈ rows) (delimiters : Delimiters) :
    (st.choiceSet delimiters s : Noted (List α)).Collects seen (st.AccountsIn rows) := by
  simp only [choiceSet, Noted.collects_bind, st.resolve_collects h, true_and]
  split <;> simp

@[simp] theorem statuses_collects {default : StatusSet}
    (h : ⟨s, .firstHit (some default.render)⟩ ∈ rows) :
    (st.statuses s default).Collects seen (st.AccountsIn rows) := by
  simp only [statuses, Noted.collects_bind, st.resolve_collects h, value_resolve, true_and]
  cases hfind : st.find? s.names with
  | none => exact st.defaulted_collects h (fun _ => hfind) default
  | some hit => exact Noted.collects_accept _ _

@[simp] theorem mergeOnto_collects (h : ⟨s, .merged⟩ ∈ rows) (read : String → Reading OrderedMap)
    (base : OrderedMap) : (st.mergeOnto read s base).Collects seen (st.AccountsIn rows) := by
  have hcollect (seen : List String) (text : String) :
      (st.collectMerged s.names s.key text).Collects seen (st.AccountsIn rows) := by
    cases hfind : st.find? s.names with
    | none => simp only [collectMerged, hfind, Noted.collects_pure]
    | some hit =>
        simp only [collectMerged, hfind, Noted.collects_collect]
        exact fun _ => ⟨_, h, rfl, .merged text hfind⟩
  simp only [mergeOnto, Noted.collects_bind, Noted.collects_reportAll, hcollect,
    Noted.collects_pure, and_self]

@[simp] theorem mergedMap_collects (h : ⟨s, .merged⟩ ∈ rows) :
    (st.mergedMap s).Collects seen (st.AccountsIn rows) :=
  st.mergeOnto_collects h _ _

theorem mergedTags_collects (mapping : TagMapping) {settings : List Setting}
    (h : ∀ s ∈ settings, ⟨s, .merged⟩ ∈ rows) :
    (st.mergedTags mapping settings).Collects seen (st.AccountsIn rows) := by
  have hfold (base : OrderedMap) :
      (settings.foldlM (fun m s => st.mergeOnto mapping.read s m) base).Collects seen
        (st.AccountsIn rows) := by
    induction settings generalizing seen base with
    | nil => exact Noted.collects_pure base
    | cons s rest ih =>
        obtain ⟨hs, hrest⟩ := List.forall_mem_cons.1 h
        rw [List.foldlM_cons, Noted.collects_bind]
        exact ⟨st.mergeOnto_collects hs _ _, ih hrest _⟩
  exact hfold .empty

end Stack

end TracerSettings
