import TracerSettings.Number.Integer
import TracerSettings.Text.Character
import TracerSettings.Text.Cut
import TracerSettings.Tokens

namespace TracerSettings

namespace StatusSet

abbrev limit : Nat := 600

abbrev wordSize : Nat := 64

abbrev wordCount : Nat := 10

abbrev Words := Vector (BitVec wordSize) wordCount

/-- The word that has the bit of a code, and the place of the bit in it. -/
def slot (code : Nat) : Nat × Nat := (code / wordSize, code % wordSize)

theorem slot_lt {code : Nat} (h : code < limit) : (slot code).1 < wordCount :=
  Nat.div_lt_of_lt_mul (Nat.lt_of_lt_of_le h (by decide))

theorem slot_injective {code code' : Nat} (h : slot code = slot code') : code = code' := by
  obtain ⟨hword, hbit⟩ := Prod.mk.inj h
  rw [← Nat.div_add_mod code wordSize, hword, hbit, Nat.div_add_mod]

/-- The bit at a position of the mask, whether there is a code for it or not. -/
def bitAt (words : Words) (position : Nat) : Bool :=
  words[(slot position).1]?.any (·.getLsbD (slot position).2)

def Clear (words : Words) : Prop := ∀ position, limit ≤ position → bitAt words position = false

def setBit (words : Words) (code : Nat) (h : code < limit) : Words :=
  have hslot := slot_lt h
  words.set (slot code).1 (words[(slot code).1] ||| BitVec.twoPow wordSize (slot code).2)

theorem bitAt_zero (position : Nat) : bitAt (Vector.replicate wordCount 0) position = false := by
  rw [bitAt, Vector.getElem?_replicate]
  split <;> simp

theorem bitAt_setBit (words : Words) {code : Nat} (h : code < limit) (position : Nat) :
    bitAt (setBit words code h) position = (bitAt words position || decide (code = position)) := by
  have hslot := slot_lt h
  by_cases hword : (slot code).1 = (slot position).1
  · have hbit : (slot code).2 = (slot position).2 ↔ code = position :=
      ⟨fun heq => slot_injective (Prod.ext hword heq), fun heq => heq ▸ rfl⟩
    have hplace : (slot code).2 < wordSize := Nat.mod_lt code (by decide)
    simp [bitAt, setBit, ← hword, hslot, BitVec.getLsbD_twoPow, hplace, hbit]
  · have hne : code ≠ position := fun heq => hword (heq ▸ rfl)
    simp [bitAt, setBit, Vector.getElem?_set_ne, hword, hne]

theorem clear_zero : Clear (Vector.replicate wordCount 0) := fun position _ => bitAt_zero position

theorem Clear.setBit {words : Words} (hwords : Clear words) {code : Nat} (h : code < limit) :
    Clear (setBit words code h) := by
  intro position hposition
  have hne : code ≠ position := Nat.ne_of_lt (Nat.lt_of_lt_of_le h hposition)
  rw [bitAt_setBit, hwords position hposition, Bool.false_or, decide_eq_false hne]

theorem bitAt_mul_add (words : Words) {word bit : Nat} (hword : word < wordCount)
    (hbit : bit < wordSize) : bitAt words (wordSize * word + bit) = words[word].getLsbD bit := by
  have hslot : slot (wordSize * word + bit) = (word, bit) := by
    rw [slot, Nat.mul_add_div (by decide), Nat.div_eq_of_lt hbit, Nat.mul_add_mod,
      Nat.mod_eq_of_lt hbit, Nat.add_zero]
  simp [bitAt, hslot, hword]

theorem eq_of_bitAt {words words' : Words}
    (h : ∀ position, bitAt words position = bitAt words' position) : words = words' := by
  apply Vector.ext
  intro word hword
  apply BitVec.eq_of_getLsbD_eq
  intro bit hbit
  rw [← bitAt_mul_add words hword hbit, h, bitAt_mul_add words' hword hbit]

end StatusSet

/-- A mask over the codes. The bits of its last word that no code has stay clear, so sets with the
same codes have the same words. -/
structure StatusSet where
  words : StatusSet.Words
  clear : StatusSet.Clear words
  deriving DecidableEq, Repr

namespace StatusSet

theorem eq_of_words {s t : StatusSet} (h : s.words = t.words) : s = t := by
  obtain ⟨words, _⟩ := s
  obtain ⟨words', _⟩ := t
  obtain rfl : words = words' := h
  rfl

def empty : StatusSet := ⟨Vector.replicate wordCount 0, clear_zero⟩

def contains (s : StatusSet) (code : Nat) : Bool :=
  if h : code < limit then
    have hslot := slot_lt h
    s.words[(slot code).1] &&& BitVec.twoPow wordSize (slot code).2 != 0
  else false

/-- Adds a code, and tells whether it is in the domain; one outside changes nothing. -/
def tryInsert (s : StatusSet) (code : Nat) : Bool × StatusSet :=
  if h : code < limit then (true, ⟨setBit s.words code h, s.clear.setBit h⟩) else (false, s)

def insert (s : StatusSet) (code : Nat) : StatusSet := (s.tryInsert code).2

def insertRange (s : StatusSet) (lo hi : Nat) : StatusSet :=
  (List.range' lo (hi + 1 - lo)).foldl insert s

def ofRange (lo hi : Nat) : StatusSet := insertRange empty lo hi

def serverErrors : StatusSet := ofRange 500 599

def clientErrors : StatusSet := ofRange 400 499

def isEmpty (s : StatusSet) : Bool := s.words.all (· == 0)

def codes (s : StatusSet) : List Nat := (List.range limit).filter s.contains

def size (s : StatusSet) : Nat :=
  s.words.toList.foldl (fun total word => total + word.cpop.toNat) 0

/-- Joins ascending codes into the longest ranges of neighbours. -/
def runsOf (codes : List Nat) : List (Nat × Nat) :=
  codes.foldr
    (fun code runs =>
      match runs with
      | (lo, hi) :: rest => if lo = code + 1 then (code, hi) :: rest else (code, code) :: runs
      | [] => [(code, code)])
    []

def runs (s : StatusSet) : List (Nat × Nat) := runsOf s.codes

def runText (run : Nat × Nat) : String :=
  if run.1 = run.2 then toString run.1 else toString run.1 ++ "-" ++ toString run.2

/-- The ranges of the set, joined by commas; a range of one code has no dash. -/
def render (s : StatusSet) : String := ",".intercalate (s.runs.map runText)

theorem contains_eq_bitAt (s : StatusSet) (code : Nat) : s.contains code = bitAt s.words code := by
  unfold contains
  split
  case isTrue h =>
    have hslot := slot_lt h
    have hplace : (slot code).2 < wordSize := Nat.mod_lt code (by decide)
    have hone : BitVec.twoPow wordSize (slot code).2 ≠ 0 := by
      intro hzero
      have hbit := congrArg (·.getLsbD (slot code).2) hzero
      simp [hplace] at hbit
    simp only [bitAt, hslot, Vector.getElem?_eq_getElem, Option.any_some, BitVec.and_twoPow]
    split <;> simp_all
  case isFalse h => exact (s.clear code (Nat.le_of_not_lt h)).symm

@[simp] theorem contains_empty (code : Nat) : empty.contains code = false := by
  rw [contains_eq_bitAt, empty, bitAt_zero]

theorem contains_insert (s : StatusSet) (code c : Nat) :
    (s.insert code).contains c =
      (s.contains c || (decide (code < limit) && decide (code = c))) := by
  rw [contains_eq_bitAt, contains_eq_bitAt, insert, tryInsert]
  split
  case isTrue h => simp [bitAt_setBit, h]
  case isFalse h => simp [h]

theorem lt_limit_of_contains {s : StatusSet} {code : Nat} (h : s.contains code = true) :
    code < limit := by
  apply Nat.lt_of_not_le
  intro hcode
  rw [contains_eq_bitAt, s.clear code hcode] at h
  cases h

theorem isEmpty_iff {s : StatusSet} : s.isEmpty = true ↔ ∀ code, s.contains code = false := by
  have hzero : s.isEmpty = true ↔ s.words = Vector.replicate wordCount 0 := by
    rw [isEmpty, Vector.eq_replicate_iff, Vector.all_eq_true_iff_forall_mem]
    simp only [beq_iff_eq]
  rw [hzero]
  constructor
  · intro h code
    rw [contains_eq_bitAt, h, bitAt_zero]
  · intro h
    apply eq_of_bitAt
    intro position
    rw [← contains_eq_bitAt, h, bitAt_zero]

theorem mem_codes {s : StatusSet} {code : Nat} : code ∈ s.codes ↔ s.contains code = true := by
  simp only [codes, List.mem_filter, List.mem_range, and_iff_right_iff_imp]
  exact lt_limit_of_contains

inductive CodeError where
  | notANumber (raw : String) (cause : IntegerError)
  | outOfDomain (code : Nat)
  deriving DecidableEq, Repr

def CodeError.message : CodeError → String
  | .notANumber raw cause => "'" ++ raw ++ "' is not a status code: " ++ cause.message
  | .outOfDomain code => toString code ++ " is outside 0-" ++ toString (limit - 1)

def readCode (raw : List Char) : Except CodeError Nat :=
  match IntegerRange.word16.read (String.ofList raw) with
  | .error cause => .error (.notANumber (String.ofList raw) cause)
  | .ok code => if code.toNat < limit then .ok code.toNat else .error (.outOfDomain code.toNat)

/-- The bounds a token names, the smaller one first. -/
def readRange (token : List Char) : Except CodeError (Nat × Nat) :=
  match Text.cut '-' token with
  | none => (readCode token).map fun code => (code, code)
  | some (left, right) => do
      let lo ← readCode left
      let hi ← readCode right
      return (min lo hi, max lo hi)

def addToken (r : Reading StatusSet) (token : List Char) : Reading StatusSet :=
  match readRange token with
  | .ok (lo, hi) => ⟨r.value.insertRange lo hi, r.rejected⟩
  | .error e => ⟨r.value, r.rejected ++ [⟨String.ofList token, e.message⟩]⟩

def rangeTokens (raw : String) : List (List Char) :=
  (Text.pieces (· == ',') (raw.toList.filter fun c => !Text.isBlank c)).filter fun t => !t.isEmpty

/-- The union of the ranges in `raw`, or `fallback` if that is empty. -/
def read (raw : String) (fallback : StatusSet) : Reading StatusSet :=
  let r := (rangeTokens raw).foldl addToken (.clean empty)
  ⟨if r.value.isEmpty then fallback else r.value, r.rejected⟩

end StatusSet

end TracerSettings
