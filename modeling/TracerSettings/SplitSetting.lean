import TracerSettings.Stack.Typed

namespace TracerSettings

inductive Direction where
  | extract
  | inject
  deriving DecidableEq, Repr

structure DirectionKeys where
  extract : String
  inject : String
  deriving DecidableEq, Repr

def DirectionKeys.key (keys : DirectionKeys) : Direction → String
  | .extract => keys.extract
  | .inject => keys.inject

/-- A setting that exists under two generations of names. For each direction its current key
decides, then the current key of both, then the deprecated key, and last a default; a key without
any known value counts as absent. -/
structure SplitSetting (Old New : Type) where
  common : String
  current : DirectionKeys
  deprecated : DirectionKeys
  deprecatedDelimiters : Delimiters
  currentDelimiters : Delimiters
  successors : Old → List New
  defaultCurrent : List New
  defaultLegacy : List Old

inductive Outcome where
  | current (key : String)
  | currentOverridesDeprecated (key : String)
  | deprecatedConverted (key : String)
  | default
  deriving DecidableEq, Repr

namespace Outcome

def kind : Outcome → String
  | .current _ => "current"
  | .currentOverridesDeprecated _ => "current_overrides_deprecated"
  | .deprecatedConverted _ => "deprecated_converted"
  | .default => "default"

def key? : Outcome → Option String
  | .current key => some key
  | .currentOverridesDeprecated key => some key
  | .deprecatedConverted key => some key
  | .default => none

end Outcome

/-- One direction: its values, the deprecated values as they are, and how the values came about. -/
structure Reconciled (Old New : Type) where
  values : List New
  legacy : List Old
  outcome : Outcome
  deriving DecidableEq, Repr

structure ReconciledSetting (Old New : Type) where
  extract : Reconciled Old New
  inject : Reconciled Old New
  deriving DecidableEq, Repr

namespace SplitSetting

variable {Old New : Type} [DecidableEq Old] [DecidableEq New] [Choice Old] [Choice New]

def orDefault {α : Type} (values default : List α) : List α :=
  if values.isEmpty then default else values

def namesText {α : Type} [Choice α] (values : List α) : String :=
  bracketed (values.map Choice.name)

def convert (setting : SplitSetting Old New) (old : List Old) : List New :=
  unique (old.flatMap setting.successors)

def winner? (setting : SplitSetting Old New) (d : Direction) (common split : List New) :
    Option (String × List New) :=
  if !split.isEmpty then some (setting.current.key d, split)
  else if !common.isEmpty then some (setting.common, common)
  else none

/-- Settles a direction by what its three keys say. -/
def settle (setting : SplitSetting Old New) (d : Direction) (common split : List New)
    (old : List Old) : Noted (Reconciled Old New) := do
  let currentKey := setting.current.key d
  let deprecatedKey := setting.deprecated.key d
  let legacy := orDefault old setting.defaultLegacy
  if !common.isEmpty && !split.isEmpty then
    report (.overridden setting.common currentKey (namesText split))
  match setting.winner? d common split with
  | some (key, values) =>
      if old.isEmpty then return ⟨values, legacy, .current key⟩
      report (.overriddenDeprecated deprecatedKey key (namesText values))
      return ⟨values, legacy, .currentOverridesDeprecated key⟩
  | none =>
      let converted := setting.convert old
      if converted.isEmpty then return ⟨setting.defaultCurrent, legacy, .default⟩
      report (.deprecatedConverted deprecatedKey (namesText old) currentKey (namesText converted))
      return ⟨converted, legacy, .deprecatedConverted deprecatedKey⟩

def reconcileDirection (setting : SplitSetting Old New) (st : Stack) (d : Direction)
    (common : List New) : Noted (Reconciled Old New) := do
  let old ← st.choiceSet setting.deprecatedDelimiters (.named (setting.deprecated.key d))
  let split ← st.choiceSet setting.currentDelimiters (.named (setting.current.key d))
  setting.settle d common split old

def reconcile (setting : SplitSetting Old New) (st : Stack) :
    Noted (ReconciledSetting Old New) := do
  let common ← st.choiceSet setting.currentDelimiters (.named setting.common)
  let extract ← setting.reconcileDirection st .extract common
  let inject ← setting.reconcileDirection st .inject common
  return ⟨extract, inject⟩

end SplitSetting

end TracerSettings
