import Mathlib.Algebra.Field.Rat
import TracerSettings.Json
import TracerSettings.Number.Decimal
import TracerSettings.Text.Character
import TracerSettings.Toml.Quoted
import TracerSettings.Toml.Value

namespace TracerSettings.Json

/-- What JSON denotes. The fields of an object have no order of their own; they stand in that of
their keys. -/
inductive Data where
  | null
  | boolean (value : Bool)
  | number (value : ℚ)
  | text (value : String)
  | array (items : List Data)
  | object (fields : List (String × Data))

namespace Reader

open Toml.Quoted (Read)

def isSpace (c : Char) : Bool := c == ' ' || c == '\n' || c == '\t' || c == '\r'

def skipSpace (cs : List Char) : List Char := cs.dropWhile isSpace

def codeUnit : Read Nat := fun cs =>
  let ds := cs.take 4
  if ds.length = 4 && ds.all Text.isHex then some (Text.ofHex ds, cs.drop 4) else none

def codePoint : Read Char := fun cs => do
  let (unit, rest) ← codeUnit cs
  if unit < 0xD800 || 0xDFFF < unit then return (Char.ofNat unit, rest)
  match rest with
  | '\\' :: 'u' :: rest =>
      let (low, rest) ← codeUnit rest
      if unit < 0xDC00 && 0xDC00 ≤ low && low < 0xE000 then
        return (Char.ofNat (0x10000 + 0x400 * (unit - 0xD800) + (low - 0xDC00)), rest)
      else none
  | _ => none

def escape : Read Char
  | '"' :: rest => some ('"', rest)
  | '\\' :: rest => some ('\\', rest)
  | '/' :: rest => some ('/', rest)
  | 'b' :: rest => some (Char.ofNat 8, rest)
  | 'f' :: rest => some (Char.ofNat 12, rest)
  | 'n' :: rest => some ('\n', rest)
  | 'r' :: rest => some ('\r', rest)
  | 't' :: rest => some ('\t', rest)
  | 'u' :: rest => codePoint rest
  | _ => none

/-- A string behind its opening quote. The characters read so far come in reverse order, and every
step takes one of `fuel`. -/
def stringFrom : Nat → List Char → Read String
  | 0, _, _ => none
  | fuel + 1, out, cs =>
      match cs with
      | '"' :: rest => some (String.ofList out.reverse, rest)
      | '\\' :: rest =>
          match escape rest with
          | some (c, rest) => stringFrom fuel (c :: out) rest
          | none => none
      | c :: rest => if c.toNat < 0x20 then none else stringFrom fuel (c :: out) rest
      | [] => none

def scaled (digits : List Char) (x : Int) : ℚ := Binary.ofDigits digits * 10 ^ x

/-- The value of an unsigned number. No zero stands in front of another digit, and a point has
digits to both sides. -/
def magnitude? (cs : List Char) : Option ℚ :=
  let whole := cs.takeWhile Char.isDigit
  if whole.isEmpty || (whole.head? == some '0' && whole != ['0']) then none
  else
    match cs.dropWhile Char.isDigit with
    | '.' :: rest =>
        let fraction := rest.takeWhile Char.isDigit
        if fraction.isEmpty then none
        else
          (Binary.exponent? (rest.dropWhile Char.isDigit)).map fun x =>
            scaled (whole ++ fraction) (x - fraction.length)
    | rest => (Binary.exponent? rest).map (scaled whole)

def number? (cs : List Char) : Option ℚ :=
  match cs with
  | '-' :: cs => (magnitude? cs).map fun v => -v
  | cs => magnitude? cs

def isNumeric (c : Char) : Bool := c.isDigit || ['+', '-', '.', 'e', 'E'].contains c

def scalar (fuel : Nat) : Read Data
  | 'n' :: 'u' :: 'l' :: 'l' :: rest => some (.null, rest)
  | 't' :: 'r' :: 'u' :: 'e' :: rest => some (.boolean true, rest)
  | 'f' :: 'a' :: 'l' :: 's' :: 'e' :: rest => some (.boolean false, rest)
  | '"' :: cs => (stringFrom fuel [] cs).map fun (s, rest) => (.text s, rest)
  | cs => (number? (cs.takeWhile isNumeric)).map fun v => (.number v, cs.dropWhile isNumeric)

section Entries

variable {α : Type} (entry : Read α) (closing : Char)

def entriesFrom : Nat → Read (List α)
  | 0, _ => none
  | fuel + 1, cs => do
      let (first, rest) ← entry cs
      match skipSpace rest with
      | c :: rest =>
          if c = closing then return ([first], rest)
          else if c = ',' then
            let (others, rest) ← entriesFrom fuel rest
            return (first :: others, rest)
          else none
      | [] => none

def bracketed (fuel : Nat) : Read (List α) := fun cs =>
  match skipSpace cs with
  | c :: rest => if c = closing then some ([], rest) else entriesFrom entry closing fuel cs
  | [] => none

end Entries

def field (fuel : Nat) (value : Read Data) : Read (String × Data) := fun cs =>
  match skipSpace cs with
  | '"' :: rest => do
      let (key, rest) ← stringFrom fuel [] rest
      match skipSpace rest with
      | ':' :: rest =>
          let (v, rest) ← value rest
          return ((key, v), rest)
      | _ => none
  | _ => none

def value (fuel : Nat) : Nat → Read Data
  | 0, _ => none
  | depth + 1, cs =>
      match skipSpace cs with
      | '[' :: rest =>
          (bracketed (value fuel depth) ']' fuel rest).map fun (items, rest) => (.array items, rest)
      | '\x7b' :: rest =>
          (bracketed (field fuel (value fuel depth)) '\x7d' fuel rest).map fun (fields, rest) =>
            (.object (Toml.sortEntries fields), rest)
      | cs => scalar fuel cs

end Reader

def read? (text : String) : Option Data := do
  let fuel := text.length + 1
  let (data, rest) ← Reader.value fuel fuel text.toList
  if Reader.skipSpace rest = [] then some data else none

example : read? " [ 1.5e1 ,\"\\u00e9\\/\" ]\n" = some (.array [.number 15, .text "é/"]) := by cbv

example : read? "[1, 02]" = none := by cbv

end TracerSettings.Json
