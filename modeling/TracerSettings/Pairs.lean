import TracerSettings.OrderedMap
import TracerSettings.Text.Character
import TracerSettings.Text.LowerCase
import TracerSettings.Tokens

namespace TracerSettings

/-- Adds what one token says: an entry, or a reason why it has none. -/
def Reading.addEntry (r : Reading OrderedMap) (token : String) :
    Except String (String × String) → Reading OrderedMap
  | .ok (key, value) => ⟨r.value.insert key value, r.rejected⟩
  | .error reason => ⟨r.value, r.rejected ++ [⟨token, reason⟩]⟩

def readEntries (entry : String → Except String (String × String)) (tokens : List String) :
    Reading OrderedMap :=
  tokens.foldl (fun r token => r.addEntry token (entry token)) (.clean .empty)

namespace Pairs

def sides (token : String) : Option (String × String) :=
  (Text.cut '=' token.toList).map fun (key, value) =>
    (Text.trim (String.ofList key), Text.trim (String.ofList value))

def entry (token : String) : Except String (String × String) :=
  match sides token with
  | none => .error "expected key=value"
  | some (key, value) => if key = "" then .error "empty key" else .ok (key, value)

def read (delimiters : Delimiters) (raw : String) : Reading OrderedMap :=
  readEntries entry (tokens delimiters raw)

end Pairs

/-- Letters and digits of ASCII, `-` and `/` stay, in lower case; anything else becomes `_`. -/
def tagCharacter (c : Char) : Char :=
  if c.isAlphanum || c == '-' || c == '/' then c.toLower else '_'

def tagName (name : String) : String := (Text.trim name).map tagCharacter

/-- Reading of maps whose values may be left out: a key without a value stands for a tag named after
it, under `tagPrefix` if there is one. -/
structure TagMapping where
  tagPrefix : Option String
  lowerCaseKeys : Bool
  deriving DecidableEq, Repr

namespace TagMapping

def storedKey (m : TagMapping) (key : String) : String :=
  if m.lowerCaseKeys then Text.lowerCase key else key

def defaultTag (m : TagMapping) (key : String) : String :=
  match m.tagPrefix with
  | some start => start ++ tagName key
  | none => key

def entry (m : TagMapping) (token : String) : Except String (String × String) :=
  let (key, value) := (Pairs.sides token).getD (token, "")
  if key = "" then .error "empty key"
  else
    let key := m.storedKey key
    .ok (key, if value = "" then m.defaultTag key else value)

def read (m : TagMapping) (raw : String) : Reading OrderedMap :=
  readEntries m.entry (tokens .comma raw)

end TagMapping

end TracerSettings
