import TracerSettings.Text.Cut

namespace TracerSettings.Url.Punycode

def digit? (c : Char) : Option Nat :=
  if 'a' ≤ c && c ≤ 'z' then some (c.toNat - 'a'.toNat)
  else if '0' ≤ c && c ≤ '9' then some (c.toNat - '0'.toNat + 26)
  else none

/-- A digit below the threshold ends a number. -/
def threshold (bias column : Nat) : Nat := max 1 (min 26 (column - bias))

/-- Divides by 35 until the range of three digits is reached, and counts a column each time. -/
def scale (delta column : Nat) : Nat × Nat :=
  if 455 < delta then scale (delta / 35) (column + 36) else (delta, column)
termination_by delta
decreasing_by omega

/-- The bias that suits numbers like `delta`, when `count` characters are in the text. -/
def adapt (delta count : Nat) (isFirst : Bool) : Nat :=
  let delta := if isFirst then delta / 700 else delta / 2
  let (delta, column) := scale (delta + delta / count) 0
  column + 36 * delta / (delta + 38)

/-- A text so far, with the code and the place of the next insertion if it took no step, and the
number that is being read. -/
structure Progress where
  text : List Char
  code : Nat
  place : Nat
  bias : Nat
  number : Nat
  weight : Nat
  column : Nat
  deriving Repr

def Progress.start (basic : List Char) : Progress := ⟨basic, 0x80, 0, 72, 0, 1, 36⟩

def char? (code : Nat) : Option Char :=
  if code.isValidChar then some (Char.ofNat code) else none

def Progress.insert (p : Progress) : Option Progress := do
  let count := p.text.length + 1
  let steps := p.place + p.number
  let code := p.code + steps / count
  let place := steps % count
  let c ← char? code
  return ⟨p.text.insertIdx place c, code, place + 1, adapt p.number count (p.place == 0), 0, 1, 36⟩

def Progress.digit (p : Progress) (c : Char) : Option Progress := do
  let d ← digit? c
  let t := threshold p.bias p.column
  let number := p.number + d * p.weight
  if d < t then Progress.insert { p with number }
  else return { p with number, weight := p.weight * (36 - t), column := p.column + 36 }

/-- The text in a notation in lower case. In front of the last hyphen stand the characters of ASCII,
and behind it one number for each of the others, in the order of their codes: the steps between two
insertions. -/
def decode? (cs : List Char) : Option (List Char) := do
  let (basic, numbers) := (Text.cutLast '-' cs).getD ([], cs)
  guard (!numbers.isEmpty && (!basic.isEmpty || cs.head? != some '-'))
  let p ← numbers.foldlM Progress.digit (.start basic)
  guard (p.column == 36)
  return p.text

end TracerSettings.Url.Punycode
