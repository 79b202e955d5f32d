import TracerSettings.Number.Integer
import TracerSettings.Text.Character
import TracerSettings.Text.Cut

namespace TracerSettings.Url

namespace V4

/-- A part: `0x` announces hexadecimal and a leading zero octal. -/
def part? (cs : List Char) : Option Nat :=
  match cs with
  | [] => none
  | '0' :: 'x' :: ds => if ds.all Text.isHex then some (Text.ofHex ds) else none
  | '0' :: 'X' :: ds => if ds.all Text.isHex then some (Text.ofHex ds) else none
  | '0' :: d :: ds =>
      if (d :: ds).all fun c => '0' ≤ c && c ≤ '7' then
        some ((d :: ds).foldl (fun n c => 8 * n + digitValue c) 0)
      else none
  | _ =>
      if cs.all Char.isDigit then some (cs.foldl (fun n c => 10 * n + digitValue c) 0) else none

def parts (cs : List Char) : List (List Char) :=
  let ps := Text.pieces (· == '.') cs
  if ps.getLast? = some [] then ps.dropLast else ps

def endsInNumber (cs : List Char) : Bool :=
  match (parts cs).getLast? with
  | some last => (!last.isEmpty && last.all Char.isDigit) || (part? last).isSome
  | none => false

def read? (cs : List Char) : Option Nat := do
  let numbers ← (parts cs).mapM part?
  let last ← numbers.getLast?
  let others := numbers.dropLast
  let room := Nat.pow 256 (4 - others.length)
  guard (others.length < 4 && others.all (· < 256) && last < room)
  return room * others.foldl (fun n part => 256 * n + part) 0 + last

def text (address : Nat) : String :=
  ".".intercalate ([3, 2, 1, 0].map fun i => toString (address / Nat.pow 256 i % 256))

end V4

namespace V6

def piece? (cs : List Char) : Option Nat :=
  if !cs.isEmpty && cs.length ≤ 4 && cs.all Text.isHex then some (Text.ofHex cs) else none

def byte? (cs : List Char) : Option Nat :=
  let n := cs.foldl (fun n c => 10 * n + digitValue c) 0
  if !cs.isEmpty && cs.all Char.isDigit && (cs.head? != some '0' || cs.length = 1) && n < 256 then
    some n
  else none

/-- Four bytes with dots between them, as two pieces. -/
def dotted? (cs : List Char) : Option (List Nat) := do
  match ← (Text.pieces (· == '.') cs).mapM byte? with
  | [a, b, c, d] => return [256 * a + b, 256 * c + d]
  | _ => none

/-- Pieces with colons between them. Only the last of an address may be dotted. -/
def pieces? (isEnd : Bool) (cs : List Char) : Option (List Nat) := do
  if cs.isEmpty then return []
  let groups := Text.pieces (· == ':') cs
  let last ← groups.getLast?
  let front ← groups.dropLast.mapM piece?
  match piece? last with
  | some n => return front ++ [n]
  | none => if isEnd then return front ++ (← dotted? last) else none

def cutGap : List Char → Option (List Char × List Char)
  | ':' :: ':' :: rest => some ([], rest)
  | c :: rest => (cutGap rest).map fun (before, after) => (c :: before, after)
  | [] => none

def read? (cs : List Char) : Option (List Nat) := do
  match cutGap cs with
  | none =>
      let ps ← pieces? true cs
      if ps.length = 8 then return ps else none
  | some (before, after) =>
      let front ← pieces? false before
      let back ← pieces? true after
      if front.length + back.length < 8 then
        return front ++ List.replicate (8 - front.length - back.length) 0 ++ back
      else none

def longestGap (ps : List Nat) : Nat × Nat :=
  let runs := (List.range ps.length).map fun i => (i, ((ps.drop i).takeWhile (· == 0)).length)
  runs.foldl (fun best run => if best.2 < run.2 then run else best) (0, 0)

def pieceTexts (ps : List Nat) : String :=
  ":".intercalate (ps.map fun p => String.ofList (Nat.toDigits 16 p))

def text (ps : List Nat) : String :=
  let (start, length) := longestGap ps
  if length < 2 then pieceTexts ps
  else pieceTexts (ps.take start) ++ "::" ++ pieceTexts (ps.drop (start + length))

end V6

end TracerSettings.Url
