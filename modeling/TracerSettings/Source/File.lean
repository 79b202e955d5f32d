import TracerSettings.FileSystem
import TracerSettings.Source
import TracerSettings.Toml.Reader

namespace TracerSettings

inductive LoadError where
  | missing (path : String)
  | unreadable (path : String) (failure : FileFailure)
  | tooLarge (path : String) (size : Nat)
  /-- The text is no TOML, for a cause that the library that reads TOML has words for. -/
  | malformed (label cause : String)
  deriving DecidableEq, Repr

namespace Source

def sizeLimit : Nat := 1048576

def inlineLabel : String := "<inline>"

end Source

def LoadError.message : LoadError → String
  | .missing path => "Failed to read config file at " ++ path ++ ": entity not found"
  | .unreadable path failure => "Failed to read config file at " ++ path ++ ": " ++ failure.message
  | .tooLarge path size =>
      "Config file at " ++ path ++ " is " ++ toString size ++ " bytes, exceeding the " ++
        toString Source.sizeLimit ++ " byte limit"
  | .malformed label cause => "Failed to parse config file at " ++ label ++ ": " ++ cause

namespace Source

section

variable (fault : String → String)

/-- The source in a text, where `fault` says of a text that is no TOML what is wrong with it. -/
def ofToml (location : Option String) (label text : String) : Except LoadError Source :=
  match Toml.read? text with
  | some v => .ok (.document location (v.leaves ""))
  | none => .error (.malformed label (fault text))

def ofInlineToml (text : String) : Except LoadError Source := ofToml fault none inlineLabel text

/-- The source in a file; there is none if the file does not exist. -/
def tryLoad (files : FileSystem) (path : String) : Except LoadError (Option Source) :=
  match files.readText path with
  | .error .notFound => .ok none
  | .error failure => .error (.unreadable path failure)
  | .ok text =>
      if sizeLimit < text.utf8ByteSize then .error (.tooLarge path text.utf8ByteSize)
      else (ofToml fault (some path) path text).map some

def load (files : FileSystem) (path : String) : Except LoadError Source :=
  match tryLoad fault files path with
  | .error e => .error e
  | .ok (some source) => .ok source
  | .ok none => .error (.missing path)

end

end Source

end TracerSettings
