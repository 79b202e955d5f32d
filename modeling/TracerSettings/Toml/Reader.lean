import TracerSettings.Number.Decimal
import TracerSettings.Toml.Outline
import TracerSettings.Toml.Quoted
import TracerSettings.Toml.Value

namespace TracerSettings.Toml

open Quoted (Read isSpace isPlain newline?)

def skipSpace (cs : List Char) : List Char := cs.dropWhile isSpace

namespace Scalar

def digitsFrom (isDigit : Char → Bool) : List Char → List Char → List Char × List Char
  | out, [] => (out.reverse, [])
  | out, '_' :: c :: rest =>
      if isDigit c then digitsFrom isDigit (c :: out) rest else (out.reverse, '_' :: c :: rest)
  | out, c :: rest =>
      if isDigit c then digitsFrom isDigit (c :: out) rest else (out.reverse, c :: rest)

/-- At least one digit; the underscores are left out of the result. -/
def digits (isDigit : Char → Bool) : Read (List Char)
  | [] => none
  | c :: rest => if isDigit c then some (digitsFrom isDigit [c] rest) else none

def sign : List Char → List Char × List Char
  | '+' :: rest => (['+'], rest)
  | '-' :: rest => (['-'], rest)
  | cs => ([], cs)

/-- A decimal integer part: no zero stands in front of other digits. -/
def whole : Read (List Char) := fun cs =>
  let (s, rest) := sign cs
  match rest with
  | '0' :: rest => some (s ++ ['0'], rest)
  | _ => (digits Char.isDigit rest).map fun (ds, rest) => (s ++ ds, rest)

def exponent : Read (List Char)
  | c :: rest =>
      if c = 'e' || c = 'E' then
        let (s, rest) := sign rest
        (digits Char.isDigit rest).map fun (ds, rest) => ('e' :: s ++ ds, rest)
      else none
  | [] => none

def fraction : Read (List Char)
  | '.' :: rest => (digits Char.isDigit rest).map fun (ds, rest) => ('.' :: ds, rest)
  | _ => none

/-- A literal that passes the greatest number is refused; one below the least number is not. -/
def realOf (literal : List Char) : Option Value :=
  match Binary.read .double (String.ofList literal) with
  | .ok (.infinite false) => none
  | .ok x => some (.real x)
  | .error _ => none

def real : Read Value := fun cs => do
  let (w, cs) ← whole cs
  match fraction cs with
  | some (f, cs) =>
      let (e, cs) := (exponent cs).getD ([], cs)
      return (← realOf (w ++ f ++ e), cs)
  | none =>
      let (e, cs) ← exponent cs
      return (← realOf (w ++ e), cs)

def word (w : String) (v : Value) : Read Value := fun cs =>
  if w.toList.isPrefixOf cs then some (v, cs.drop w.length) else none

def special : Read Value := fun cs =>
  let (s, rest) := sign cs
  word "inf" (.real (.infinite (s == ['-']))) rest <|> word "nan" (.real .nan) rest

def ofRadix (radix : Nat) (isDigit : Char → Bool) : Read Value := fun cs => do
  let (ds, rest) ← digits isDigit cs
  let n := ds.foldl (fun v c => radix * v + Text.hexValue c) 0
  guard ((n : Int) ≤ IntegerRange.int64.greatest)
  return (.integer n, rest)

def integer : Read Value
  | '0' :: 'x' :: rest => ofRadix 16 Text.isHex rest
  | '0' :: 'o' :: rest => ofRadix 8 (fun c => '0' ≤ c && c ≤ '7') rest
  | '0' :: 'b' :: rest => ofRadix 2 (fun c => c == '0' || c == '1') rest
  | cs => do
      let (w, rest) ← whole cs
      match IntegerRange.int64.read (String.ofList w) with
      | .ok n => return (.integer n, rest)
      | .error _ => none

def datetime : Read Value := fun cs =>
  (Datetime.read cs).map fun (d, rest) => (.datetime d, rest)

def read (fuel : Nat) : Read Value := fun cs =>
  match cs with
  | [] => none
  | c :: _ =>
      if c = '"' || c = '\'' then (Quoted.read fuel cs).map fun (s, rest) => (.text s, rest)
      else if c = 't' then word "true" (.boolean true) cs
      else if c = 'f' then word "false" (.boolean false) cs
      else datetime cs <|> real cs <|> special cs <|> integer cs

end Scalar

/-- Keys, values and headers may not nest deeper than this. -/
def nestingLimit : Nat := 79

def isBare (c : Char) : Bool := c.isAlphanum || c == '-' || c == '_'

def keyPart (fuel : Nat) : Read String := fun cs =>
  match cs with
  | [] => none
  | c :: _ =>
      if c = '"' || c = '\'' then Quoted.readLine fuel cs
      else if isBare c then some (String.ofList (cs.takeWhile isBare), cs.dropWhile isBare)
      else none

def keyFrom (fuel : Nat) : Nat → List String → Read (List String)
  | 0, _, _ => none
  | parts + 1, seen, cs => do
      let (part, cs) ← keyPart fuel (skipSpace cs)
      match skipSpace cs with
      | '.' :: cs => keyFrom fuel parts (part :: seen) cs
      | cs => return (part :: seen, cs)

def key (fuel : Nat) : Read (List String × String) := fun cs => do
  match ← keyFrom fuel nestingLimit [] cs with
  | (last :: path, cs) => return ((path.reverse, last), cs)
  | ([], _) => none

/-- White space, line breaks and comments between the items of an array. A comment ends with its
line, not with the text. -/
def skipGap : Bool → List Char → Option (List Char)
  | inComment, [] => if inComment then none else some []
  | _, '\r' :: '\n' :: rest => skipGap false rest
  | _, '\n' :: rest => skipGap false rest
  | true, c :: rest => if isPlain c then skipGap true rest else none
  | false, c :: rest =>
      if isSpace c then skipGap false rest
      else if c = '#' then skipGap true rest
      else some (c :: rest)

def arrayFrom (item : Read Value) : Nat → List Value → Read (List Value)
  | 0, _, _ => none
  | fuel + 1, seen, cs => do
      match ← skipGap false cs with
      | ']' :: cs => return (seen, cs)
      | cs =>
          let (v, cs) ← item cs
          match ← skipGap false cs with
          | ',' :: cs => arrayFrom item fuel (v :: seen) cs
          | ']' :: cs => return (v :: seen, cs)
          | _ => none

/-- The entries of a table in braces, which stands on one line and has no comma at its end. -/
def bracesFrom (item : Read Value) (length : Nat) : Nat → Outline.Fields → Read Outline.Fields
  | 0, _, _ => none
  | fuel + 1, fields, cs => do
      let ((path, last), cs) ← key length cs
      let cs ← Datetime.mark '=' cs
      let (v, cs) ← item (skipSpace cs)
      let fields ← Outline.assign path last v .own fields
      match skipSpace cs with
      | ',' :: cs => bracesFrom item length fuel fields cs
      | '}' :: cs => return (fields, cs)
      | _ => none

def value (length : Nat) : Nat → Read Value
  | 0, cs => Scalar.read length cs
  | depth + 1, cs =>
      match cs with
      | '[' :: rest =>
          (arrayFrom (value length depth) length [] rest).map fun (items, rest) =>
            (.array items.reverse, rest)
      | '{' :: rest =>
          match skipSpace rest with
          | '}' :: rest => some (.table [], rest)
          | _ =>
              (bracesFrom (value length depth) length length [] rest).map fun (fields, rest) =>
                (Outline.toTable fields, rest)
      | _ => Scalar.read length cs

def lineEnd (cs : List Char) : Option (List Char) :=
  let rest :=
    match skipSpace cs with
    | '#' :: cs => cs.dropWhile isPlain
    | cs => cs
  match rest with
  | [] => some []
  | _ => newline? rest

/-- A document so far: its tables, and the header that is in force. -/
structure Progress where
  root : Outline.Fields
  header : List String

def Progress.start : Progress := ⟨[], []⟩

def Progress.assignment (length : Nat) (p : Progress) : Read Progress := fun cs => do
  let ((path, last), cs) ← key length cs
  let cs ← Datetime.mark '=' cs
  let (v, cs) ← value length nestingLimit (skipSpace cs)
  let root ← Outline.inside p.header (Outline.assign path last v) p.root
  return (⟨root, p.header⟩, cs)

def Progress.tableHeader (length : Nat) (p : Progress) : Read Progress := fun cs => do
  let ((path, last), cs) ← key length cs
  let cs ← Datetime.mark ']' cs
  let root ← Outline.openTable path last .own p.root
  return (⟨root, path ++ [last]⟩, cs)

def Progress.itemHeader (length : Nat) (p : Progress) : Read Progress := fun cs => do
  let ((path, last), cs) ← key length cs
  let cs ← Datetime.mark ']' cs
  let cs ← Datetime.mark ']' cs
  let root ← Outline.openItem path last .own p.root
  return (⟨root, path ++ [last]⟩, cs)

def Progress.line (length : Nat) (p : Progress) : Read Progress := fun cs => do
  let (p, cs) ←
    match cs with
    | [] => some (p, cs)
    | '#' :: _ => some (p, cs)
    | '\n' :: _ => some (p, cs)
    | '\r' :: _ => some (p, cs)
    | '[' :: '[' :: cs => p.itemHeader length cs
    | '[' :: cs => p.tableHeader length cs
    | _ => p.assignment length cs
  let cs ← lineEnd cs
  return (p, cs)

def Progress.lines (length : Nat) : Nat → Progress → List Char → Option Progress
  | 0, _, _ => none
  | fuel + 1, p, cs =>
      match skipSpace cs with
      | [] => some p
      | cs =>
          match p.line length cs with
          | some (p, cs) => Progress.lines length fuel p cs
          | none => none

def dropMark (cs : List Char) : List Char :=
  match cs with
  | c :: rest => if c.toNat = 0xFEFF then rest else cs
  | [] => []

/-- The table that a text writes down, before any table is taken for a date-time. -/
def table? (s : String) : Option Value :=
  let cs := dropMark s.toList
  let length := cs.length + 1
  (Progress.lines length length .start cs).map fun p => Outline.toTable p.root

/-- The value that a text denotes, with the entries of tables in the order of their keys. It is a
table, unless the first key of the document makes it a date-time. -/
def read? (s : String) : Option Value := do
  let v ← (← table? s).resolve?
  return v.sorted

end TracerSettings.Toml
