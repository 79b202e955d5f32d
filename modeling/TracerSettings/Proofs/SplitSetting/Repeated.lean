import TracerSettings.Proofs.SplitSetting
import TracerSettings.Proofs.Stack.FirstHit

namespace TracerSettings

namespace Noted

variable {α β : Type}

/-- A run on a journal: every step gets what the steps before it have left. -/
def onto (x : Noted α) : StateM Journal α := fun j => (x.value, j.absorb x.notes)

@[simp] theorem onto_pure (a : α) : (pure a : Noted α).onto = pure a := rfl

@[simp] theorem onto_bind (x : Noted α) (f : α → Noted β) :
    (x >>= f).onto = x.onto >>= fun a => (f a).onto := by
  funext j
  exact congrArg (Prod.mk _) (j.absorb_append x.notes (f x.value).notes)

@[simp] theorem onto_report (d : Diagnostic) : (report d).onto = modify (Journal.record · d) := rfl

@[simp] theorem onto_collect (key value : String) (origin : Origin) :
    (collect key value origin).onto = modify (Journal.put · key value origin) := rfl

end Noted

namespace Stack

def entry? (st : Stack) (key : String) : Option (String × Collected) :=
  (st.find? [key]).map fun hit => (key, ⟨Journal.shown key hit.value, hit.origin⟩)

variable {α : Type} [DecidableEq α] [Choice α]

theorem entries_choiceSet (st : Stack) (delimiters : Delimiters) (key : String) :
    entries (st.choiceSet delimiters (.named key) : Noted (List α)).notes =
      (st.entry? key).toList := by
  have hresolve : (st.resolve (.named key)).value = st.find? [key] := st.value_resolve _
  rw [choiceSet, entry?, Noted.notes_bind, entries_append, notes_resolve, hresolve]
  cases st.find? [key] with
  | none => rfl
  | some hit =>
      simp only [acceptChoice, reportAll, Noted.notes_bind, Noted.notes_pure, List.append_nil,
        entries_map_report]
      rfl

end Stack

namespace SplitSetting

variable {Old New : Type} [DecidableEq Old] [DecidableEq New] [Choice Old] [Choice New]

def lookupsOf (setting : SplitSetting Old New) (d : Direction) : List String :=
  [setting.deprecated.key d, setting.current.key d]

def lookups (setting : SplitSetting Old New) : List String :=
  setting.common :: (setting.lookupsOf .extract ++ setting.lookupsOf .inject)

variable (setting : SplitSetting Old New) (st : Stack)

theorem entries_directionRun (d : Direction) :
    entries (setting.directionRun st d).notes = (setting.lookupsOf d).filterMap st.entry? := by
  have hsettle : entries (setting.settle d (setting.said st d).common (setting.said st d).split
      (setting.said st d).old).notes = [] := by
    rw [notes_settle, entries_map_report]
  simp only [directionRun, reconcileDirection, Noted.notes_bind, entries_append, value_choiceSet,
    Stack.entries_choiceSet, lookupsOf, List.filterMap_eq_flatMap_toList, List.flatMap_cons,
    List.flatMap_nil]
  exact congrArg (fun rest => _ ++ (_ ++ rest)) hsettle

theorem entries_reconcile :
    entries (setting.reconcile st).notes = setting.lookups.filterMap st.entry? := by
  simp only [notes_reconcile, entries_append, Stack.entries_choiceSet, entries_directionRun,
    lookups, List.filterMap_cons, List.filterMap_append]
  cases st.entry? setting.common <;> rfl

/-- What a run comes to on a journal, and what a second run does after it. -/
structure Repeatable (setting : SplitSetting Old New) (st : Stack) (before : Journal) : Prop where
  stepwise : (setting.reconcile st).onto = do
    let common ← (st.choiceSet setting.currentDelimiters (.named setting.common)).onto
    let extract ← (setting.reconcileDirection st .extract common).onto
    let inject ← (setting.reconcileDirection st .inject common).onto
    return ⟨extract, inject⟩
  decided (d : Direction) :
    setting.Decided d (setting.said st d) (((setting.reconcile st).onto before).1.side d)
  same (other : Journal) :
    ((setting.reconcile st).onto other).1 = ((setting.reconcile st).onto before).1
  diagnostics : ((setting.reconcile st).onto before).2.diagnostics =
    before.diagnostics ++ firsts id before.diagnostics (setting.told st)
  collected : ((setting.reconcile st).onto before).2.collected =
    before.collected ++ firsts Prod.fst before.keys (setting.lookups.filterMap st.entry?)
  again : (setting.reconcile st).onto ((setting.reconcile st).onto before).2 =
    (setting.reconcile st).onto before

/-- A setting can be reconciled over and over, whichever of its keys are the same and whatever a
journal holds before. -/
theorem reconcile_repeatable (before : Journal) : setting.Repeatable st before := by
  constructor
  case stepwise => simp only [reconcile, Noted.onto_bind, Noted.onto_pure]
  case decided => exact decided_reconcile setting st
  case same => exact fun _ => rfl
  case diagnostics =>
    rw [Noted.onto, Journal.diagnostics_absorb, Journal.log_eq_firsts, reports_reconcile]
  case collected =>
    rw [Noted.onto, Journal.collected_absorb, Journal.entered, entries_reconcile]
  case again => exact congrArg (Prod.mk _) (before.absorb_absorb _)

end SplitSetting

end TracerSettings
