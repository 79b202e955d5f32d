import TracerSettings.FileSystem
import TracerSettings.Journal
import TracerSettings.Json
import TracerSettings.Stack.Typed

namespace TracerSettings

/-- Keys that are never taken from process properties, which others on the host can see. -/
structure Credentials where
  apiKey : Option String
  applicationKey : Option String
  deriving DecidableEq, Repr

namespace Credentials

def default : Credentials := ⟨none, none⟩

/-- What is shown of a secret: whether there is one. -/
def masked (secret : Option String) : Option String := secret.map fun _ => mask

def text (c : Credentials) : String :=
  "Credentials \x7b api_key: " ++ Json.quote ((masked c.apiKey).getD "") ++
    ", application_key: " ++ Json.quote ((masked c.applicationKey).getD "") ++ " \x7d"

/-- The trimmed content of the file that a setting names. A file that cannot be read is reported,
and one without content counts as absent. -/
def fromFile (files : FileSystem) (st : Stack) (s : Setting) : Noted (Option String) := do
  match ← st.text? s with
  | none => return none
  | some path =>
      match files.readText path with
      | .ok content => return Text.nonBlank content
      | .error failure =>
          report (.unreadableFile s.key path failure.message)
          return none

/-- The settings of one generation of a key, and where the direct one is looked up. -/
structure Generation where
  key : Setting
  file : Setting
  environmentOnly : Bool

def Generation.direct (g : Generation) (st : Stack) : Noted (Option String) :=
  if g.environmentOnly then st.textFrom? .environment g.key else st.textOutside? .process g.key

def Generation.resolve (g : Generation) (files : FileSystem) (st : Stack) :
    Noted (Option String) := do
  let direct ← g.direct st
  let content ← fromFile files st g.file
  return content <|> direct

def apiKeyGenerations : List Generation :=
  [⟨.apiKey, .apiKeyFile, false⟩,
    ⟨.profilingApiKey, .profilingApiKeyFile, true⟩,
    ⟨.oldestApiKey, .oldestApiKeyFile, true⟩]

/-- The key of the first generation that has one. -/
def firstKey (files : FileSystem) (st : Stack) : List Generation → Noted (Option String)
  | [] => pure none
  | g :: rest => do
      match ← g.resolve files st with
      | some key => return some key
      | none => firstKey files st rest

def resolveApiKey (files : FileSystem) (st : Stack) : Noted (Option String) :=
  firstKey files st apiKeyGenerations

def resolveApplicationKey (files : FileSystem) (st : Stack) : Noted (Option String) :=
  Generation.resolve ⟨.applicationKey, .applicationKeyFile, false⟩ files st

def resolve (files : FileSystem) (st : Stack) : Noted Credentials := do
  let apiKey ← resolveApiKey files st
  let applicationKey ← resolveApplicationKey files st
  return ⟨apiKey, applicationKey⟩

end Credentials

end TracerSettings
