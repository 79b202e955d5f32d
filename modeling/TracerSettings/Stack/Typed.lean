import TracerSettings.Pairs
import TracerSettings.Scalar
import TracerSettings.Stack
import TracerSettings.StatusSet
import TracerSettings.Tokens

namespace TracerSettings

def invalidValues (setting : String) (rejected : List Rejected) : List Diagnostic :=
  rejected.map fun r => .invalidValue setting r.token r.reason

def unrecognizedValues (setting : String) (rejected : List Rejected) : List Diagnostic :=
  rejected.map fun r => .unrecognizedValue setting r.token

def accept {α : Type} (setting : String) (r : Reading α) : Noted α := do
  reportAll (invalidValues setting r.rejected)
  return r.value

def acceptChoice {α : Type} (setting : String) (r : Reading α) : Noted α := do
  reportAll (unrecognizedValues setting r.rejected)
  return r.value

namespace Stack

def defaulted {α : Type} (s : Setting) (text : String) (default : α) : Noted α := do
  collect s.key text .default
  return default

def text? (st : Stack) (s : Setting) : Noted (Option String) := do
  return (← st.resolve s).map Hit.value

def textOr (st : Stack) (s : Setting) (default : String) : Noted String := do
  match ← st.text? s with
  | some value => return value
  | none => defaulted s default default

def textOutside? (st : Stack) (o : Origin) (s : Setting) : Noted (Option String) := do
  return (← st.resolveExcluding [o] s).map Hit.value

/-- The value of a setting in the sources of one origin alone: all other origins of the stack are
excluded. -/
def textFrom? (st : Stack) (o : Origin) (s : Setting) : Noted (Option String) := do
  return (← st.resolveExcluding (st.origins.filter (· != o)) s).map Hit.value

def scalar {α : Type} (st : Stack) (kind : Scalar α) (s : Setting) (default : α) : Noted α := do
  match ← st.resolve s with
  | none => defaulted s (kind.text default) default
  | some hit =>
      match kind.read hit.value with
      | .ok value => return value
      | .error reason =>
          report (.invalidValue s.key hit.value reason)
          return default

def switch? (st : Stack) (s : Setting) : Noted (Option Bool) := do
  match ← st.resolve s with
  | none => return none
  | some hit =>
      match Scalar.switch.read hit.value with
      | .ok on => return some on
      | .error reason =>
          report (.invalidValue s.key hit.value reason)
          return none

/-- A switch that cannot be read counts as unset, but what was found is collected before its default
is. -/
def switch (st : Stack) (s : Setting) (default : Bool) : Noted Bool := do
  match ← st.switch? s with
  | some on => return on
  | none => defaulted s (switchText default) default

/-- Whether something with several names is on: the first name with a readable switch decides. A
name stands between `start` and `ending` in the key of its switch. -/
def isEnabled (st : Stack) (start ending : String) (default : Bool) :
    List String → Noted Bool
  | [] => return default
  | name :: rest => do
      match ← st.switch? (.named (start ++ name ++ ending)) with
      | some on => return on
      | none => st.isEnabled start ending default rest

section Choice

variable {α : Type} [DecidableEq α] [Choice α]

def choice (st : Stack) (s : Setting) (default : α) : Noted α := do
  match ← st.resolve s with
  | none => defaulted s (Choice.name default) default
  | some hit => acceptChoice s.key (Choice.readOr hit.value default)

def choiceSet (st : Stack) (delimiters : Delimiters) (s : Setting) : Noted (List α) := do
  match ← st.resolve s with
  | none => return []
  | some hit => acceptChoice s.key (Choice.readSet delimiters hit.value)

end Choice

def list (st : Stack) (delimiters : Delimiters) (s : Setting) : Noted (List String) := do
  return ((← st.text? s).map (tokens delimiters)).getD []

def set (st : Stack) (s : Setting) : Noted (List String) := do
  return ((← st.text? s).map (tokenSet .comma)).getD []

def map (st : Stack) (s : Setting) : Noted OrderedMap := do
  match ← st.resolve s with
  | none => return .empty
  | some hit => accept s.key (Pairs.read .comma hit.value)

def statuses (st : Stack) (s : Setting) (default : StatusSet) : Noted StatusSet := do
  match ← st.resolve s with
  | none => defaulted s default.render default
  | some hit => accept s.key (StatusSet.read hit.value default)

/-- The hits of a setting, the lowest rank first. -/
def layers (st : Stack) (names : List String) : List Hit := (st.hits names).reverse

def collectMerged (st : Stack) (names : List String) (key text : String) : Noted Unit :=
  match st.find? names with
  | some top => collect key text top.origin
  | none => pure ()

/-- Lays the maps of a setting over `base`, the lowest rank first. What is collected is the whole,
under the origin of the highest source that has a value. -/
def mergeOnto (st : Stack) (read : String → Reading OrderedMap) (s : Setting) (base : OrderedMap) :
    Noted OrderedMap := do
  let layers := st.layers s.names
  let merged := layers.foldl (fun m hit => m.extend (read hit.value).value) base
  reportAll (layers.flatMap fun hit => invalidValues hit.key (read hit.value).rejected)
  st.collectMerged s.names s.key merged.render
  return merged

def mergedMap (st : Stack) (s : Setting) : Noted OrderedMap :=
  st.mergeOnto (Pairs.read .comma) s .empty

/-- Merges several tag settings in turn into one map. Each is collected with what has come together
up to it. -/
def mergedTags (st : Stack) (mapping : TagMapping) (settings : List Setting) : Noted OrderedMap :=
  settings.foldlM (fun m s => st.mergeOnto mapping.read s m) .empty

def mergedSet (st : Stack) (s : Setting) : Noted (List String) := do
  let merged := (st.layers s.names).flatMap fun hit => tokenSet .comma hit.value
  let merged := unique merged
  st.collectMerged s.names s.key (",".intercalate merged)
  return merged

end Stack

end TracerSettings
