import TracerSettings.Proofs.Choice
import TracerSettings.Proofs.Journal
import TracerSettings.Section.Propagation

namespace TracerSettings

def Stack.variants {α : Type} [DecidableEq α] [Choice α] (st : Stack) (delimiters : Delimiters)
    (key : String) : List α :=
  match st.find? [key] with
  | none => []
  | some hit => unique ((tokens delimiters hit.value).filterMap Choice.read?)

def Stack.unknown (α : Type) [Choice α] (st : Stack) (delimiters : Delimiters) (key : String) :
    List Diagnostic :=
  match st.find? [key] with
  | none => []
  | some hit =>
      (unique ((tokens delimiters hit.value).filter fun word =>
        (Choice.read? word : Option α).isNone)).map (.unrecognizedValue key)

def Diagnostic.isUnrecognized : Diagnostic → Bool
  | .unrecognizedValue .. => true
  | _ => false

/-- The diagnostics in a list apart from those on names that are not known. -/
def decisions (diagnostics : List Diagnostic) : List Diagnostic :=
  diagnostics.filter fun d => !d.isUnrecognized

theorem decisions_append (xs ys : List Diagnostic) :
    decisions (xs ++ ys) = decisions xs ++ decisions ys :=
  List.filter_append xs ys

def ReconciledSetting.side {Old New : Type} (r : ReconciledSetting Old New) :
    Direction → Reconciled Old New
  | .extract => r.extract
  | .inject => r.inject

namespace SplitSetting

variable {Old New : Type}

def keys (setting : SplitSetting Old New) : List String :=
  [setting.common, setting.current.extract, setting.current.inject, setting.deprecated.extract,
    setting.deprecated.inject]

structure Said (Old New : Type) where
  common : List New
  split : List New
  old : List Old

section Winner

variable {setting : SplitSetting Old New} {d : Direction} {common split : List New}

theorem winner?_of_split (h : split ≠ []) :
    setting.winner? d common split = some (setting.current.key d, split) := by
  simp [winner?, h]

theorem winner?_of_common (h : common ≠ []) :
    setting.winner? d common [] = some (setting.common, common) := by
  simp [winner?, h]

end Winner

variable [DecidableEq Old] [DecidableEq New] [Choice Old] [Choice New]

def said (setting : SplitSetting Old New) (st : Stack) (d : Direction) : Said Old New where
  common := st.variants setting.currentDelimiters setting.common
  split := st.variants setting.currentDelimiters (setting.current.key d)
  old := st.variants setting.deprecatedDelimiters (setting.deprecated.key d)

def Said.outcome (s : Said Old New) (key : String) : Outcome :=
  if s.old = [] then .current key else .currentOverridesDeprecated key

/-- The rules by which a direction is decided. -/
structure Decided (setting : SplitSetting Old New) (d : Direction) (s : Said Old New)
    (r : Reconciled Old New) : Prop where
  split : s.split ≠ [] → r.values = s.split ∧ r.outcome = s.outcome (setting.current.key d)
  common : s.split = [] → s.common ≠ [] →
    r.values = s.common ∧ r.outcome = s.outcome setting.common
  converted : s.split = [] → s.common = [] → setting.convert s.old ≠ [] →
    r.values = setting.convert s.old ∧ r.outcome = .deprecatedConverted (setting.deprecated.key d)
  default : s.split = [] → s.common = [] → setting.convert s.old = [] →
    r.values = setting.defaultCurrent ∧ r.outcome = .default
  legacy : r.legacy = if s.old = [] then setting.defaultLegacy else s.old
  nonempty : setting.defaultCurrent ≠ [] → r.values ≠ []
  nodup : setting.defaultCurrent.Nodup → r.values.Nodup

/-- The reports that the rules ask for, in their order. -/
def owed (setting : SplitSetting Old New) (d : Direction) (s : Said Old New) : List Diagnostic :=
  let currentKey := setting.current.key d
  let deprecatedKey := setting.deprecated.key d
  (if s.split ≠ [] ∧ s.common ≠ [] then
      [.overridden setting.common currentKey (namesText s.split)]
    else []) ++
  (if s.old ≠ [] ∧ s.split ≠ [] then
      [.overriddenDeprecated deprecatedKey currentKey (namesText s.split)]
    else []) ++
  (if s.old ≠ [] ∧ s.split = [] ∧ s.common ≠ [] then
      [.overriddenDeprecated deprecatedKey setting.common (namesText s.common)]
    else []) ++
  (if s.split = [] ∧ s.common = [] ∧ setting.convert s.old ≠ [] then
      [.deprecatedConverted deprecatedKey (namesText s.old) currentKey
        (namesText (setting.convert s.old))]
    else [])

section Settle

omit [DecidableEq Old]

variable {setting : SplitSetting Old New} {d : Direction} {common split values : List New}
  {key : String}

theorem value_settle_of_winner (h : setting.winner? d common split = some (key, values))
    (old : List Old) :
    (setting.settle d common split old).value =
      ⟨values, orDefault old setting.defaultLegacy,
        if old = [] then .current key else .currentOverridesDeprecated key⟩ := by
  simp only [settle, h]
  cases old <;> split <;> rfl

theorem settle_nil (setting : SplitSetting Old New) (d : Direction) (old : List Old) :
    setting.settle d [] [] old =
      if setting.convert old = [] then
        pure ⟨setting.defaultCurrent, orDefault old setting.defaultLegacy, .default⟩
      else do
        report (.deprecatedConverted (setting.deprecated.key d) (namesText old)
          (setting.current.key d) (namesText (setting.convert old)))
        return ⟨setting.convert old, orDefault old setting.defaultLegacy,
          .deprecatedConverted (setting.deprecated.key d)⟩ := by
  simp only [settle, winner?, List.isEmpty_nil]
  cases setting.convert old <;> rfl

theorem legacy_settle (old : List Old) :
    (setting.settle d common split old).value.legacy = orDefault old setting.defaultLegacy := by
  by_cases hsplit : split = []
  · by_cases hcommon : common = []
    · rw [hsplit, hcommon, settle_nil]
      split <;> rfl
    · rw [hsplit, value_settle_of_winner (winner?_of_common hcommon)]
  · rw [value_settle_of_winner (winner?_of_split hsplit)]

theorem values_settle (P : List New → Prop) (old : List Old) (hsplit : split ≠ [] → P split)
    (hcommon : common ≠ [] → P common)
    (hconvert : setting.convert old ≠ [] → P (setting.convert old))
    (hdefault : P setting.defaultCurrent) :
    P (setting.settle d common split old).value.values := by
  by_cases hs : split = []
  · by_cases hc : common = []
    · rw [hs, hc, settle_nil]
      by_cases h : setting.convert old = []
      · rw [if_pos h]
        exact hdefault
      · rw [if_neg h]
        exact hconvert h
    · rw [hs, value_settle_of_winner (winner?_of_common hc)]
      exact hcommon hc
  · rw [value_settle_of_winner (winner?_of_split hs)]
    exact hsplit hs

theorem decided_settle (s : Said Old New) (hsplit : s.split.Nodup) (hcommon : s.common.Nodup) :
    setting.Decided d s (setting.settle d s.common s.split s.old).value := by
  constructor
  case split =>
    intro hs
    rw [value_settle_of_winner (winner?_of_split hs)]
    exact ⟨rfl, rfl⟩
  case common =>
    intro hs hc
    rw [hs, value_settle_of_winner (winner?_of_common hc)]
    exact ⟨rfl, rfl⟩
  case converted =>
    intro hs hc h
    rw [hs, hc, settle_nil, if_neg h]
    exact ⟨rfl, rfl⟩
  case default =>
    intro hs hc h
    rw [hs, hc, settle_nil, if_pos h]
    exact ⟨rfl, rfl⟩
  case legacy =>
    rw [legacy_settle, orDefault]
    cases s.old <;> rfl
  case nonempty => exact values_settle (· ≠ []) s.old id id id
  case nodup =>
    exact values_settle List.Nodup s.old (fun _ => hsplit) (fun _ => hcommon)
      fun _ => nodup_unique _

theorem notes_settle (s : Said Old New) :
    (setting.settle d s.common s.split s.old).notes = (setting.owed d s).map .report := by
  obtain ⟨common, split, old⟩ := s
  cases split with
  | nil =>
      cases common with
      | nil =>
          rw [settle_nil]
          by_cases h : setting.convert old = []
          · simp [owed, h]
          · simp [owed, h, report]
      | cons a rest => cases old <;> simp [owed, settle, winner?, report]
  | cons a rest => cases common <;> cases old <;> simp [owed, settle, winner?, report]

end Settle

section Run

variable {α : Type} [DecidableEq α] [Choice α] (st : Stack) (delimiters : Delimiters) (key : String)

theorem value_choiceSet :
    (st.choiceSet delimiters (.named key)).value = (st.variants delimiters key : List α) := by
  have hfind : (st.resolve (.named key)).value = st.find? [key] := Stack.value_resolve st _
  rw [Stack.choiceSet, Noted.value_bind, hfind, Stack.variants]
  cases st.find? [key] with
  | none => rfl
  | some hit => exact Choice.value_readSet delimiters hit.value

theorem nodup_variants : (st.variants delimiters key : List α).Nodup := by
  unfold Stack.variants
  split
  · exact List.nodup_nil
  · exact nodup_unique _

theorem reports_choiceSet :
    reports (st.choiceSet delimiters (.named key) : Noted (List α)).notes =
      st.unknown α delimiters key := by
  have hfind : (st.resolve (.named key)).value = st.find? [key] := Stack.value_resolve st _
  have hresolve : reports (st.resolve (.named key)).notes = [] := by
    unfold Stack.resolve
    split <;> rfl
  rw [Stack.choiceSet, Noted.notes_bind, reports_append, hresolve, List.nil_append, hfind,
    Stack.unknown]
  cases st.find? [key] with
  | none => rfl
  | some hit =>
      simp only [acceptChoice, reportAll, unrecognizedValues, Choice.rejected_readSet,
        Noted.notes_bind, Noted.notes_pure, List.append_nil, reports_map_report]
      exact List.map_map

omit [DecidableEq α] in
theorem decisions_unknown : decisions (st.unknown α delimiters key) = [] := by
  apply List.filter_eq_nil_iff.2
  intro x hx
  unfold Stack.unknown at hx
  split at hx
  · exact absurd hx List.not_mem_nil
  · obtain ⟨_, -, rfl⟩ := List.mem_map.1 hx
    exact Bool.false_ne_true

end Run

section Owed

omit [DecidableEq Old]

variable {setting : SplitSetting Old New} {d : Direction} {s : Said Old New} {x : Diagnostic}

theorem mem_owed (h : x ∈ setting.owed d s) :
    (∃ value, x = .overridden setting.common (setting.current.key d) value) ∨
      (∃ key value, x = .overriddenDeprecated (setting.deprecated.key d) key value) ∨
        ∃ old key new, x = .deprecatedConverted (setting.deprecated.key d) old key new := by
  simp only [owed, List.mem_append] at h
  rcases h with ((h | h) | h) | h <;> split at h <;>
    simp only [List.mem_singleton, List.not_mem_nil] at h <;> subst h
  · exact .inl ⟨_, rfl⟩
  · exact .inr (.inl ⟨_, _, rfl⟩)
  · exact .inr (.inl ⟨_, _, rfl⟩)
  · exact .inr (.inr ⟨_, _, _, rfl⟩)

theorem nodup_owed (setting : SplitSetting Old New) (d : Direction) (s : Said Old New) :
    (setting.owed d s).Nodup := by
  obtain ⟨common, split, old⟩ := s
  by_cases h : setting.convert old = [] <;>
    cases split <;> cases common <;> cases old <;> simp [owed, h]

theorem nodup_owed_append (hkeys : setting.keys.Nodup) (s s' : Said Old New) :
    (setting.owed .extract s ++ setting.owed .inject s').Nodup := by
  have hcurrent : setting.current.extract ≠ setting.current.inject := by
    intro h
    simp [keys, h] at hkeys
  have hdeprecated : setting.deprecated.extract ≠ setting.deprecated.inject := by
    intro h
    simp [keys, h] at hkeys
  rw [List.nodup_append]
  refine ⟨nodup_owed setting _ s, nodup_owed setting _ s', ?_⟩
  rintro x hx _ hx' rfl
  rcases mem_owed hx with ⟨_, rfl⟩ | ⟨_, _, rfl⟩ | ⟨_, _, _, rfl⟩ <;>
    rcases mem_owed hx' with ⟨_, h⟩ | ⟨_, _, h⟩ | ⟨_, _, _, h⟩ <;>
      simp only [Diagnostic.overridden.injEq, Diagnostic.overriddenDeprecated.injEq,
        Diagnostic.deprecatedConverted.injEq, DirectionKeys.key, reduceCtorEq] at h
  · exact hcurrent h.2.1
  · exact hdeprecated h.1
  · exact hdeprecated h.1

theorem decisions_owed (setting : SplitSetting Old New) (d : Direction) (s : Said Old New) :
    decisions (setting.owed d s) = setting.owed d s := by
  apply List.filter_eq_self.2
  intro x hx
  rcases mem_owed hx with ⟨_, rfl⟩ | ⟨_, _, rfl⟩ | ⟨_, _, _, rfl⟩ <;> rfl

end Owed

def toldOf (setting : SplitSetting Old New) (st : Stack) (d : Direction) : List Diagnostic :=
  st.unknown Old setting.deprecatedDelimiters (setting.deprecated.key d) ++
    st.unknown New setting.currentDelimiters (setting.current.key d) ++
      setting.owed d (setting.said st d)

def told (setting : SplitSetting Old New) (st : Stack) : List Diagnostic :=
  st.unknown New setting.currentDelimiters setting.common ++
    (setting.toldOf st .extract ++ setting.toldOf st .inject)

variable (setting : SplitSetting Old New) (st : Stack)

def directionRun (d : Direction) : Noted (Reconciled Old New) :=
  setting.reconcileDirection st d (setting.said st d).common

theorem value_directionRun (d : Direction) :
    (setting.directionRun st d).value =
      (setting.settle d (setting.said st d).common (setting.said st d).split
        (setting.said st d).old).value := by
  simp only [directionRun, reconcileDirection, Noted.value_bind, value_choiceSet]
  rfl

theorem reports_directionRun (d : Direction) :
    reports (setting.directionRun st d).notes = setting.toldOf st d := by
  have hsettle : reports (setting.settle d (setting.said st d).common (setting.said st d).split
      (setting.said st d).old).notes = setting.owed d (setting.said st d) := by
    rw [notes_settle, reports_map_report]
  simp only [directionRun, reconcileDirection, Noted.notes_bind, reports_append, value_choiceSet,
    reports_choiceSet, toldOf, List.append_assoc, ← hsettle]
  rfl

theorem decisions_directionRun (d : Direction) :
    decisions (reports (setting.directionRun st d).notes) = setting.owed d (setting.said st d) := by
  rw [reports_directionRun, toldOf, decisions_append, decisions_append, decisions_unknown,
    decisions_unknown, decisions_owed, List.nil_append, List.nil_append]

theorem value_reconcile :
    (setting.reconcile st).value =
      ⟨(setting.directionRun st .extract).value, (setting.directionRun st .inject).value⟩ := by
  simp only [reconcile, Noted.value_bind, value_choiceSet, Noted.value_pure]
  rfl

theorem value_reconcile_side (d : Direction) :
    (setting.reconcile st).value.side d =
      (setting.settle d (setting.said st d).common (setting.said st d).split
        (setting.said st d).old).value := by
  rw [value_reconcile, ← value_directionRun]
  cases d <;> rfl

theorem decided_reconcile (d : Direction) :
    setting.Decided d (setting.said st d) ((setting.reconcile st).value.side d) := by
  rw [value_reconcile_side]
  exact decided_settle (setting.said st d) (nodup_variants st _ _) (nodup_variants st _ _)

theorem notes_reconcile :
    (setting.reconcile st).notes =
      (st.choiceSet setting.currentDelimiters (.named setting.common) : Noted (List New)).notes ++
        ((setting.directionRun st .extract).notes ++ (setting.directionRun st .inject).notes) := by
  simp only [reconcile, Noted.notes_bind, Noted.notes_pure, value_choiceSet, List.append_nil]
  rfl

theorem reports_reconcile : reports (setting.reconcile st).notes = setting.told st := by
  simp only [notes_reconcile, reports_append, reports_choiceSet, reports_directionRun, told]

theorem decisions_reconcile :
    decisions (reports (setting.reconcile st).notes) =
      setting.owed .extract (setting.said st .extract) ++
        setting.owed .inject (setting.said st .inject) := by
  rw [reports_reconcile, told, decisions_append, decisions_append, decisions_unknown,
    List.nil_append, ← reports_directionRun, ← reports_directionRun, decisions_directionRun,
    decisions_directionRun]

/-- Each direction of a setting with five different keys is decided by the rules, and its run gives
the reports that the rules ask for and no others, apart from those on names that are not known. All
of them are kept. -/
theorem reconcile_decides (hkeys : setting.keys.Nodup) :
    (∀ d, setting.Decided d (setting.said st d) ((setting.reconcile st).value.side d)) ∧
      (∀ d, decisions (reports (setting.directionRun st d).notes) =
        setting.owed d (setting.said st d)) ∧
      decisions (Journal.empty.absorb (setting.reconcile st).notes).diagnostics =
        setting.owed .extract (setting.said st .extract) ++
          setting.owed .inject (setting.said st .inject) := by
  refine ⟨fun d => ?_, decisions_directionRun setting st, ?_⟩
  · have hside : (setting.reconcile st).value.side d = (setting.directionRun st d).value := by
      rw [value_reconcile]
      cases d <;> rfl
    rw [hside, value_directionRun]
    exact decided_settle (setting.said st d) (nodup_variants st _ _) (nodup_variants st _ _)
  · rw [Journal.diagnostics_absorb_empty, decisions, filter_unique]
    have h := decisions_reconcile setting st
    rw [decisions] at h
    rw [h]
    exact unique_of_nodup (nodup_owed_append hkeys _ _)

open Propagation

def lossy : SplitSetting LegacyStyle Style :=
  { Propagation.styles with
    successors
      | .datadog => []
      | .b3 => [.b3Single, .b3Multi]
      | .haystack => [.b3Multi, .haystack]
      | .xray => [.xray] }

def lossyStack : Stack := .ofSources [
  .pairs .process [("trace.propagation.style", "?,"),
    ("trace.propagation.style.extract", "b3, B3multi, xray"),
    ("propagation.style.extract", "datadog"),
    ("propagation.style.inject", "datadog b3, haystack b3")]]

theorem reconcile_lossy :
    lossy.keys.Nodup ∧
      (∀ d, lossy.Decided d (lossy.said lossyStack d) ((lossy.reconcile lossyStack).value.side d)) ∧
      (∀ d, decisions (reports (lossy.directionRun lossyStack d).notes) =
        lossy.owed d (lossy.said lossyStack d)) ∧
      decisions (Journal.empty.absorb (lossy.reconcile lossyStack).notes).diagnostics =
        lossy.owed .extract (lossy.said lossyStack .extract) ++
          lossy.owed .inject (lossy.said lossyStack .inject) :=
  ⟨by decide, reconcile_decides lossy lossyStack (by decide)⟩

end SplitSetting

end TracerSettings
