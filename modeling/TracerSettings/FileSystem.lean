import TracerSettings.Text.Cut

namespace TracerSettings

inductive FileFailure where
  | notFound
  | notDirectory
  | isDirectory
  | nameTooLong
  | interiorNul
  | invalidText
  /-- Any other failure, with the text that the system has for it. -/
  | other (text : String)
  deriving DecidableEq, Repr

def FileFailure.message : FileFailure → String
  | .notFound => "No such file or directory (os error 2)"
  | .notDirectory => "Not a directory (os error 20)"
  | .isDirectory => "Is a directory (os error 21)"
  | .nameTooLong => "File name too long (os error 36)"
  | .interiorNul => "file name contained an unexpected NUL byte"
  | .invalidText => "stream did not contain valid UTF-8"
  | .other text => text

structure FileSystem where
  read : String → Except FileFailure ByteArray

namespace FileSystem

def readText (files : FileSystem) (path : String) : Except FileFailure String :=
  match files.read path with
  | .error failure => .error failure
  | .ok bytes =>
      match String.fromUTF8? bytes with
      | some text => .ok text
      | none => .error .invalidText

end FileSystem

inductive FileTree where
  | file (bytes : ByteArray)
  | directory (entries : List (String × FileTree))

namespace FileTree

/-- The longest name of an entry, and the length from which on a path is too long, in bytes. -/
def longestName : Nat := 255

def pathLimit : Nat := 4096

/-- One step of a walk; `above` holds the directories on the way, the nearest one first. The root is
its own parent. -/
def step (above : List FileTree) (here : FileTree) (name : String) :
    Except FileFailure (List FileTree × FileTree) :=
  match here with
  | .file _ => .error .notDirectory
  | .directory entries =>
      if name = "" || name = "." then .ok (above, here)
      else if name = ".." then
        match above with
        | parent :: rest => .ok (rest, parent)
        | [] => .ok ([], here)
      else if longestName < name.utf8ByteSize then .error .nameTooLong
      else
        match entries.lookup name with
        | some next => .ok (here :: above, next)
        | none => .error .notFound

def walk : List FileTree → FileTree → List String → Except FileFailure FileTree
  | _, here, [] => .ok here
  | above, here, name :: rest => do
      let (above, here) ← step above here name
      walk above here rest

/-- The file at an absolute path, or at a path from the empty working directory. -/
def read (root : FileTree) (path : String) : Except FileFailure ByteArray := do
  let cs := path.toList
  if cs.any (·.toNat == 0) then throw .interiorNul
  if path = "" then throw .notFound
  if pathLimit ≤ path.utf8ByteSize then throw .nameTooLong
  let names := (Text.pieces (· == '/') cs).map String.ofList
  let start := if cs.head? = some '/' then root else .directory []
  match ← walk [] start names with
  | .file bytes => return bytes
  | .directory _ => throw .isDirectory

def fileSystem (root : FileTree) : FileSystem := ⟨root.read⟩

end FileTree

end TracerSettings
