import TracerSettings.Number.Integer
import TracerSettings.Number.Shortest

namespace TracerSettings.Toml

structure Date where
  year : Nat
  month : Nat
  day : Nat
  deriving DecidableEq, Repr

structure Time where
  hour : Nat
  minute : Nat
  second : Nat
  nanosecond : Nat
  deriving DecidableEq, Repr

inductive Offset where
  | utc
  | minutes (count : Int)
  deriving DecidableEq, Repr

inductive Datetime where
  | date (date : Date)
  | time (time : Time)
  | both (date : Date) (time : Time) (offset : Option Offset)
  deriving DecidableEq, Repr

def padded (width n : Nat) : List Char :=
  let ds := Nat.toDigits 10 n
  List.replicate (width - ds.length) '0' ++ ds

def Date.chars (d : Date) : List Char :=
  padded 4 d.year ++ '-' :: padded 2 d.month ++ '-' :: padded 2 d.day

/-- A fraction of a second is written without trailing zeros, and not at all if it is zero. -/
def Time.chars (t : Time) : List Char :=
  let fraction :=
    if t.nanosecond = 0 then []
    else '.' :: ((padded 9 t.nanosecond).reverse.dropWhile (· == '0')).reverse
  padded 2 t.hour ++ ':' :: padded 2 t.minute ++ ':' :: padded 2 t.second ++ fraction

def Offset.chars : Offset → List Char
  | .utc => ['Z']
  | .minutes count =>
      let n := count.natAbs
      (if count < 0 then '-' else '+') :: padded 2 (n / 60) ++ ':' :: padded 2 (n % 60)

def Datetime.text : Datetime → String
  | .date d => String.ofList d.chars
  | .time t => String.ofList t.chars
  | .both d t offset =>
      String.ofList (d.chars ++ 'T' :: t.chars ++ (offset.map Offset.chars).getD [])

def daysIn (year month : Nat) : Nat :=
  if month = 2 then
    if year % 4 = 0 && (year % 100 != 0 || year % 400 = 0) then 29 else 28
  else if month = 4 || month = 6 || month = 9 || month = 11 then 30
  else 31

namespace Datetime

abbrev Read (α : Type) := List Char → Option (α × List Char)

def digits (n : Nat) : Read Nat := fun cs =>
  let ds := cs.take n
  if ds.length = n && ds.all Char.isDigit then
    some (ds.foldl (fun v c => 10 * v + digitValue c) 0, cs.drop n)
  else none

def mark (c : Char) (cs : List Char) : Option (List Char) :=
  match cs with
  | d :: rest => if d = c then some rest else none
  | [] => none

def readDate : Read Date := fun cs => do
  let (year, cs) ← digits 4 cs
  let cs ← mark '-' cs
  let (month, cs) ← digits 2 cs
  let cs ← mark '-' cs
  let (day, cs) ← digits 2 cs
  guard (1 ≤ month && month ≤ 12 && 1 ≤ day && day ≤ daysIn year month)
  return (⟨year, month, day⟩, cs)

/-- Nine digits of a fraction count; further ones are cut off. -/
def readFraction (cs : List Char) : Option (Nat × List Char) :=
  match cs with
  | '.' :: rest =>
      let ds := rest.takeWhile Char.isDigit
      let kept := ds.take 9
      if ds.isEmpty then none
      else
        some (kept.foldl (fun v c => 10 * v + digitValue c) 0 * Nat.pow 10 (9 - kept.length),
          rest.dropWhile Char.isDigit)
  | _ => some (0, cs)

def readTime : Read Time := fun cs => do
  let (hour, cs) ← digits 2 cs
  let cs ← mark ':' cs
  let (minute, cs) ← digits 2 cs
  let cs ← mark ':' cs
  let (second, cs) ← digits 2 cs
  guard (hour ≤ 23 && minute ≤ 59 && second ≤ 60)
  let (nanosecond, cs) ← readFraction cs
  return (⟨hour, minute, second, nanosecond⟩, cs)

def readShift (sign : Int) : Read Offset := fun cs => do
  let (hours, cs) ← digits 2 cs
  let cs ← mark ':' cs
  let (minutes, cs) ← digits 2 cs
  guard (hours ≤ 23 && minutes ≤ 59)
  return (.minutes (sign * (60 * hours + minutes : Nat)), cs)

def readOffset (cs : List Char) : Option (Option Offset × List Char) :=
  match cs with
  | 'Z' :: rest => some (some .utc, rest)
  | 'z' :: rest => some (some .utc, rest)
  | '+' :: rest => (readShift 1 rest).map fun (offset, rest) => (some offset, rest)
  | '-' :: rest => (readShift (-1) rest).map fun (offset, rest) => (some offset, rest)
  | _ => some (none, cs)

/-- A time after a date is set off by `T`, `t` or a blank. -/
def readAfterDate (d : Date) : Read Datetime := fun cs =>
  match cs with
  | c :: rest =>
      if c = 'T' || c = 't' || c = ' ' then
        match readTime rest with
        | some (t, rest) => (readOffset rest).map fun (offset, rest) => (.both d t offset, rest)
        | none => some (.date d, cs)
      else some (.date d, cs)
  | [] => some (.date d, [])

def read : Read Datetime := fun cs =>
  match readDate cs with
  | some (d, rest) => readAfterDate d rest
  | none => (readTime cs).map fun (t, rest) => (.time t, rest)

def ofText? (s : String) : Option Datetime :=
  match read s.toList with
  | some (d, []) => some d
  | _ => none

end Datetime

end TracerSettings.Toml
