import Mathlib.Data.List.Basic
import TracerSettings.Proofs.StatusSet.Union

namespace TracerSettings.StatusSet

section Size

theorem cpopNatRec_eq_countP (word : BitVec wordSize) (n : Nat) :
    word.cpopNatRec n 0 = (List.range n).countP word.getLsbD := by
  induction n with
  | zero => rfl
  | succ n ih =>
      rw [BitVec.cpopNatRec_succ, BitVec.cpopNatRec_eq, ih, List.range_succ, List.countP_append]
      cases hbit : word.getLsbD n <;> simp [hbit]

theorem toNat_cpop (word : BitVec wordSize) :
    word.cpop.toNat = (List.range wordSize).countP word.getLsbD := by
  rw [BitVec.toNat_cpop, cpopNatRec_eq_countP]

theorem foldl_cpop_take (words : Words) {n : Nat} (h : n ≤ wordCount) :
    (words.toList.take n).foldl (fun total word => total + word.cpop.toNat) 0 =
      (List.range (wordSize * n)).countP (bitAt words) := by
  induction n with
  | zero => rfl
  | succ n ih =>
      have hlength : n < words.toList.length := by
        rw [Vector.length_toList]
        exact h
      have hword : (List.range wordSize).countP (bitAt words ∘ (wordSize * n + ·)) =
          (List.range wordSize).countP words[n].getLsbD := by
        apply List.countP_congr
        intro bit hbit
        rw [Function.comp_apply, bitAt_mul_add words h (List.mem_range.1 hbit)]
      rw [List.take_succ_eq_append_getElem hlength, List.foldl_append, ih (Nat.le_of_succ_le h),
        Nat.mul_succ, List.range_add, List.countP_append, List.countP_map, hword]
      simp [toNat_cpop]

theorem size_eq_length_codes (s : StatusSet) : s.size = s.codes.length := by
  have hlength : s.words.toList.length ≤ wordCount := Nat.le_of_eq s.words.length_toList
  have hbits : wordSize * wordCount = limit + 40 := rfl
  -- The last word has bits without a code: were one of them set, it would be counted.
  have hspare : ∀ position ∈ List.range 40, ¬(bitAt s.words ∘ (limit + ·)) position = true := by
    intro position _
    rw [Function.comp_apply, s.clear _ (Nat.le_add_right limit position)]
    exact Bool.false_ne_true
  calc s.size
    _ = (List.range (wordSize * wordCount)).countP (bitAt s.words) := by
      rw [← foldl_cpop_take s.words (Nat.le_refl wordCount), List.take_of_length_le hlength, size]
    _ = (List.range limit).countP (bitAt s.words) +
        (List.range 40).countP (bitAt s.words ∘ (limit + ·)) := by
      rw [← List.countP_map, ← List.countP_append, ← List.range_add, hbits]
    _ = (List.range limit).countP s.contains := by
      rw [List.countP_eq_zero.2 hspare, Nat.add_zero, funext s.contains_eq_bitAt]
    _ = s.codes.length := List.countP_eq_length_filter

end Size

/-- A way to make a set. -/
inductive Construction where
  | empty
  | insert (base : Construction) (code : Nat)
  | ofRange (lo hi : Nat)
  | read (raw : String) (fallback : Construction)

namespace Construction

def set : Construction → StatusSet
  | empty => .empty
  | insert base code => base.set.insert code
  | ofRange lo hi => .ofRange lo hi
  | read raw fallback => (StatusSet.read raw fallback.set).value

/-- The codes that are put in, whether they are in the domain or not. -/
def Adds : Construction → Nat → Prop
  | empty, _ => False
  | insert base added, code => base.Adds code ∨ code = added
  | ofRange lo hi, code => lo ≤ code ∧ code ≤ hi
  | read raw fallback, code =>
      (∃ token ∈ rangeTokens raw, Encloses token code) ∨
        (∀ token ∈ rangeTokens raw, ¬Accepted token) ∧ fallback.Adds code

theorem contains_set (c : Construction) (code : Nat) :
    c.set.contains code = true ↔ code < limit ∧ c.Adds code := by
  induction c with
  | empty => simp [set, Adds]
  | insert base added ih =>
      rw [set, contains_insert, Bool.or_eq_true, ih, Adds, and_or_left]
      refine or_congr_right ?_
      rw [Bool.and_eq_true, decide_eq_true_iff, decide_eq_true_iff]
      constructor
      · rintro ⟨hlimit, rfl⟩
        exact ⟨hlimit, rfl⟩
      · rintro ⟨hlimit, rfl⟩
        exact ⟨hlimit, rfl⟩
  | ofRange lo hi => simp [set, Adds, StatusSet.ofRange, contains_insertRange]
  | read raw fallback ih =>
      by_cases haccepted : ∃ token ∈ rangeTokens raw, Accepted token
      · have hnot : ¬∀ token ∈ rangeTokens raw, ¬Accepted token := by simpa using haccepted
        rw [set, contains_read haccepted, Adds, or_iff_left (fun h => hnot h.1)]
        refine (and_iff_right_of_imp ?_).symm
        rintro ⟨token, _, a, b, hnames, -, hle⟩
        exact Nat.lt_of_le_of_lt hle hnames.max_lt
      · have hnone : ∀ token ∈ rangeTokens raw, ¬Accepted token := by simpa using haccepted
        have hempty : ¬∃ token ∈ rangeTokens raw, Encloses token code :=
          fun ⟨token, htoken, hcode⟩ => hnone token htoken hcode.accepted
        rw [set, value_read_of_rejected hnone, ih, Adds, or_iff_right hempty, and_iff_right hnone]

/-- The words of a set stand for the codes that were put in. -/
structure Represents (c : Construction) : Prop where
  contains (code : Nat) : c.set.contains code = true ↔ code < limit ∧ c.Adds code
  place (code : Nat) (h : code < limit) : (slot code).1 < wordCount ∧ (slot code).2 < wordSize
  bits (word bit : Nat) (hword : word < wordCount) (hbit : bit < wordSize) :
    c.set.words[word].getLsbD bit = true ↔
      wordSize * word + bit < limit ∧ c.Adds (wordSize * word + bit)
  accepts (code : Nat) : (c.set.tryInsert code).1 = true ↔ code < limit
  ascending : c.set.codes.Pairwise (· < ·)
  codes (code : Nat) : code ∈ c.set.codes ↔ c.set.contains code = true
  size : c.set.size = c.set.codes.length
  isEmpty : c.set.isEmpty = true ↔ ∀ code, c.set.contains code = false
  same (other : Construction) : c.set.words = other.set.words ↔
    ∀ code, c.set.contains code = other.set.contains code

theorem represents (c : Construction) : c.Represents := by
  constructor
  case contains => exact c.contains_set
  case place => exact fun code h => ⟨slot_lt h, Nat.mod_lt code (by decide)⟩
  case bits =>
    intro word bit hword hbit
    rw [← bitAt_mul_add c.set.words hword hbit, ← contains_eq_bitAt, contains_set]
  case accepts =>
    intro code
    rw [tryInsert]
    split <;> simp_all
  case ascending => exact List.pairwise_lt_range.filter _
  case codes => exact fun code => mem_codes
  case size => exact c.set.size_eq_length_codes
  case isEmpty => exact isEmpty_iff
  case same =>
    intro other
    constructor
    · intro h code
      rw [contains_eq_bitAt, h, contains_eq_bitAt]
    · exact words_eq_of_contains

example : (insert (read "600, x" (ofRange 598 700)) 650).set.codes = [598, 599] := by
  decide +kernel

end Construction

end TracerSettings.StatusSet
