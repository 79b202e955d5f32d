import TracerSettings.Text.Character
import TracerSettings.Toml.Value

namespace TracerSettings.Toml.Printer

structure Content where
  doubleRun : Nat
  singleRun : Nat
  control : Bool
  backslash : Bool
  newline : Bool
  deriving DecidableEq, Repr

def longestRun (c : Char) (cs : List Char) : Nat :=
  let extend := fun (best, run) d => if d = c then (max best (run + 1), run + 1) else (best, 0)
  (cs.foldl extend (0, 0)).1

def isControl (c : Char) : Bool :=
  (c.toNat < 0x20 && c != '\t' && c != '\n') || c.toNat == 0x7F

def contentOf (cs : List Char) : Content where
  doubleRun := longestRun '"' cs
  singleRun := longestRun '\'' cs
  control := cs.any isControl
  backslash := cs.any (· == '\\')
  newline := cs.any (· == '\n')

/-- The escapes of a basic string. Inside a block, line feeds stand for themselves and so do up to
two quotes in a row; `run` counts the quotes in front. -/
def escape (inBlock : Bool) (run : Nat) (c : Char) : List Char :=
  if c = '"' then (if inBlock && run < 2 then ['"'] else ['\\', '"'])
  else if c = '\\' then ['\\', '\\']
  else if c.toNat = 8 then ['\\', 'b']
  else if c = '\t' then ['\\', 't']
  else if c = '\n' then (if inBlock then ['\n'] else ['\\', 'n'])
  else if c.toNat = 12 then ['\\', 'f']
  else if c = '\r' then ['\\', 'r']
  else if isControl c then '\\' :: 'u' :: (Text.hexDigits 4 c.toNat).map Char.toUpper
  else [c]

/-- The quotes in front of the next character: an escaped one does not count. -/
def nextRun (inBlock : Bool) (run : Nat) (c : Char) : Nat :=
  if c = '"' && inBlock && run < 2 then run + 1 else 0

def escaped (inBlock : Bool) : Nat → List Char → List Char
  | _, [] => []
  | run, c :: cs => escape inBlock run c ++ escaped inBlock (nextRun inBlock run c) cs

def basic (cs : List Char) : List Char := '"' :: escaped false 0 cs ++ ['"']

def literal (cs : List Char) : List Char := '\'' :: cs ++ ['\'']

/-- Three quotes on each side; a text of several lines starts on a line of its own. -/
def block (quote : Char) (newline : Bool) (body : List Char) : List Char :=
  let quotes := List.replicate 3 quote
  quotes ++ (if newline then ['\n'] else []) ++ body ++ quotes

def quotedChars (cs : List Char) : List Char :=
  let content := contentOf cs
  if content.control then
    if content.newline then block '"' true (escaped true 0 cs) else basic cs
  else if !content.backslash && content.doubleRun = 0 && !content.newline then basic cs
  else if content.singleRun = 0 && !content.newline then literal cs
  else if !content.backslash && content.doubleRun ≤ 2 then
    block '"' content.newline (escaped true 0 cs)
  else if content.singleRun ≤ 2 then block '\'' content.newline cs
  else if content.newline then block '"' true (escaped true 0 cs)
  else basic cs

def quoted (s : String) : String := String.ofList (quotedChars s.toList)

def isBare (c : Char) : Bool := c.isAlphanum || c == '-' || c == '_'

def key (s : String) : String :=
  let cs := s.toList
  let content := contentOf cs
  let control := content.control || content.newline
  if !cs.isEmpty && cs.all isBare then s
  else if !control && !content.backslash && content.doubleRun = 0 then String.ofList (basic cs)
  else if !control && content.singleRun = 0 then String.ofList (literal cs)
  else String.ofList (basic cs)

def realLayout : Binary.Layout := ⟨.up, ".0", fun _ => true, "nan", "inf"⟩

mutual

def value : Value → String
  | .text s => quoted s
  | .integer n => toString n
  | .real x => x.text realLayout .double
  | .boolean b => if b then "true" else "false"
  | .datetime d => d.text
  | .array items =>
      match items.length with
      | 0 => "[]"
      | 1 => "[" ++ ",".intercalate (valueItems items) ++ "]"
      | _ => "[\n" ++ String.join ((valueItems items).map fun s => "    " ++ s ++ ",\n") ++ "]"
  | .table entries =>
      if entries.isEmpty then "\x7b\x7d"
      else "\x7b " ++ ", ".intercalate (valueFields entries) ++ " \x7d"

def valueItems : List Value → List String
  | [] => []
  | item :: rest => value item :: valueItems rest

def valueFields : List (String × Value) → List String
  | [] => []
  | (k, v) :: rest => (key k ++ " = " ++ value v) :: valueFields rest

end

def isTable : Value → Bool
  | .table _ => true
  | _ => false

def assignments (entries : Entries) : String :=
  String.join ((entries.filter fun (_, v) => !isTable v).map fun (k, v) =>
    key k ++ " = " ++ value v ++ "\n")

def header (path : List String) : String := "[" ++ ".".intercalate (path.map key) ++ "]\n"

mutual

def tables (path : List String) : Value → List String
  | .table entries =>
      let own := assignments entries
      let rest := entryTables path entries
      if own.isEmpty && !entries.isEmpty then rest else (header path ++ own) :: rest
  | _ => []

def entryTables (path : List String) : List (String × Value) → List String
  | [] => []
  | (k, v) :: rest => tables (path ++ [k]) v ++ entryTables path rest

end

/-- The document of a table: its own assignments, then the blocks, with an empty line between each
two of them. -/
def document (entries : Entries) : String :=
  let own := assignments entries
  let blocks := entryTables [] entries
  "\n".intercalate (if own.isEmpty then blocks else own :: blocks)

end TracerSettings.Toml.Printer
