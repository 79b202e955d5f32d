import TracerSettings.Origin
import TracerSettings.Text.Character

namespace TracerSettings

def lastValue? (pairs : List (String × String)) (key : String) : Option String :=
  pairs.reverse.lookup key

/-- The three kinds of sources that come with the library. A kind with look-ups of its own, which a
user of the library might add, is not among them. -/
inductive Source where
  | pairs (origin : Origin) (values : List (String × String))
  | environment (start : String) (values : List (String × String))
  /-- The leaves of a document with their paths, and the file it was read from, if any. -/
  | document (location : Option String) (leaves : List (String × String))
  deriving DecidableEq, Repr

namespace Source

def variableCharacter (c : Char) : Char :=
  if c = '.' || c = '-' then '_' else c.toUpper

/-- The variable that holds a setting: `start`, an underscore and the key in upper case, with
underscores for its dots and dashes. -/
def variableName (start key : String) : String := start ++ "_" ++ key.map variableCharacter

def usualStart : String := "DD"

def origin : Source → Origin
  | .pairs origin _ => origin
  | .environment _ _ => .environment
  | .document _ _ => .file

def location : Source → Option String
  | .document location _ => location
  | _ => none

def lookup : Source → String → Option String
  | .pairs _ values, key => lastValue? values key
  | .environment start values, key => lastValue? values (variableName start key)
  | .document _ leaves, key => lastValue? leaves key

/-- The value of a variable under its own name. -/
def lookupRaw : Source → String → Option String
  | .environment _ values, name => lastValue? values name
  | _, _ => none

def present (s : Source) (key : String) : Option String := (s.lookup key).bind Text.nonBlank

def firstPresent (s : Source) (names : List String) : Option (String × String) :=
  names.findSome? fun name => (s.present name).map fun value => (name, value)

/-- The variables whose name and value are text. -/
def variablesOfBytes (entries : List (ByteArray × ByteArray)) : List (String × String) :=
  entries.filterMap fun (name, value) => do
    let name ← String.fromUTF8? name
    let value ← String.fromUTF8? value
    return (name, value)

theorem present_eq_some {s : Source} {key value : String} (h : s.present key = some value) :
    value ≠ "" := by
  obtain ⟨_, _, h⟩ := Option.bind_eq_some_iff.1 h
  exact (Text.nonBlank_eq_some h).2

end Source

end TracerSettings
