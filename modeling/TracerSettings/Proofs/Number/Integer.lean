import TracerSettings.Number.Integer
import TracerSettings.Text.Character

namespace TracerSettings

theorem isBlank_of_isDigit {c : Char} (h : c.isDigit = true) : Text.isBlank c = false := by
  simp only [Char.isDigit, Bool.and_eq_true, decide_eq_true_eq, ge_iff_le,
    UInt32.le_iff_toNat_le] at h
  obtain ⟨hlow, hhigh⟩ := h
  have hlow' : 48 ≤ c.toNat := hlow
  have hhigh' : c.toNat ≤ 57 := hhigh
  simp only [Text.isBlank, Bool.or_eq_false_iff, Bool.and_eq_false_iff, decide_eq_false_iff_not,
    beq_eq_false_iff_ne]
  omega

theorem isDigit_of_mem_toDigits {n : Nat} {c : Char} (h : c ∈ Nat.toDigits 10 n) :
    c.isDigit = true :=
  Nat.isDigit_of_mem_toDigits (by decide) (by decide) h

theorem notMem_toDigits {c : Char} (h : c.isDigit = false) (n : Nat) : c ∉ Nat.toDigits 10 n := by
  intro hmem
  rw [isDigit_of_mem_toDigits hmem] at h
  cases h

theorem le_ofDigitChars (cs : List Char) (value : Nat) : value ≤ Nat.ofDigitChars 10 cs value := by
  induction cs generalizing value with
  | nil => exact Nat.le_of_eq Nat.ofDigitChars_nil.symm
  | cons c cs ih =>
      rw [Nat.ofDigitChars_cons]
      exact Nat.le_trans (by omega) (ih _)

theorem readMagnitude_of_isDigit {bound : Nat} {cs : List Char}
    (hdigits : ∀ c ∈ cs, c.isDigit = true) {value : Nat}
    (hbound : Nat.ofDigitChars 10 cs value ≤ bound) (overflow : IntegerError) :
    readMagnitude bound overflow cs value = .ok (Nat.ofDigitChars 10 cs value) := by
  induction cs generalizing value with
  | nil => rfl
  | cons c cs ih =>
      obtain ⟨hc, hdigits⟩ := List.forall_mem_cons.1 hdigits
      rw [Nat.ofDigitChars_cons] at hbound ⊢
      have hle : 10 * value + digitValue c ≤ bound := Nat.le_trans (le_ofDigitChars cs _) hbound
      rw [readMagnitude, hc, if_neg (by decide), if_neg (Nat.not_lt.2 hle)]
      exact ih hdigits hbound

theorem IntegerRange.read_ofList_toDigits {range : IntegerRange} {n : Nat}
    (h : n ≤ range.greatest.toNat) : range.read (.ofList (Nat.toDigits 10 n)) = .ok n := by
  have hdigits : ∀ c ∈ Nat.toDigits 10 n, c.isDigit = true :=
    fun _ => isDigit_of_mem_toDigits
  have hread : readMagnitude range.greatest.toNat .tooLarge (Nat.toDigits 10 n) 0 = .ok n := by
    have hvalue : Nat.ofDigitChars 10 (Nat.toDigits 10 n) 0 = n := Nat.ofDigitChars_ten_toDigits
    rw [readMagnitude_of_isDigit hdigits (hvalue.symm ▸ h), hvalue]
  rw [read, String.toList_ofList]
  -- A text of digits starts with no sign.
  split
  case h_1 hnil => exact absurd hnil Nat.toDigits_ne_nil
  case h_6 => rw [hread]; rfl
  all_goals
    rename_i hsign
    rw [hsign] at hdigits
    exact absurd (hdigits _ List.mem_cons_self) (by decide)

/-- At least one digit, and the number that the digits are of. Leading zeros do not count. -/
structure IsNumeral (cs : List Char) (n : Nat) : Prop where
  nonempty : cs ≠ []
  digits : ∀ c ∈ cs, c.isDigit = true
  value : Nat.ofDigitChars 10 cs 0 = n

def IsUnsigned (cs : List Char) (n : Nat) : Prop :=
  IsNumeral cs n ∨ ∃ digits, cs = '+' :: digits ∧ IsNumeral digits n

theorem readMagnitude_eq_ok_iff {bound : Nat} {overflow : IntegerError} {cs : List Char}
    {value n : Nat} (hvalue : value ≤ bound) :
    readMagnitude bound overflow cs value = .ok n ↔
      (∀ c ∈ cs, c.isDigit = true) ∧ Nat.ofDigitChars 10 cs value = n ∧ n ≤ bound := by
  constructor
  · intro h
    have hread : (∀ c ∈ cs, c.isDigit = true) ∧ Nat.ofDigitChars 10 cs value = n := by
      induction cs generalizing value with
      | nil => exact ⟨fun _ hc => absurd hc List.not_mem_nil,
          Nat.ofDigitChars_nil.trans (Except.ok.inj h)⟩
      | cons c cs ih =>
          rw [readMagnitude] at h
          split at h
          · cases h
          · rename_i hc
            split at h
            · cases h
            · rename_i hle
              obtain ⟨hcs, hn⟩ := ih (Nat.not_lt.1 hle) h
              exact ⟨List.forall_mem_cons.2 ⟨by simpa using hc, hcs⟩,
                Nat.ofDigitChars_cons.trans hn⟩
    exact ⟨hread.1, hread.2, readMagnitude_le hvalue h⟩
  · rintro ⟨hdigits, rfl, hbound⟩
    exact readMagnitude_of_isDigit hdigits hbound overflow

theorem readMagnitude_zero_eq_ok_iff {bound : Nat} {overflow : IntegerError} {cs : List Char}
    {n : Nat} (hcs : cs ≠ []) :
    readMagnitude bound overflow cs 0 = .ok n ↔ IsNumeral cs n ∧ n ≤ bound := by
  rw [readMagnitude_eq_ok_iff (Nat.zero_le bound)]
  exact ⟨fun ⟨hdigits, hn, hle⟩ => ⟨⟨hcs, hdigits, hn⟩, hle⟩,
    fun ⟨h, hle⟩ => ⟨h.digits, h.value, hle⟩⟩

/-- How an integer is written: in digits, perhaps with a plus in front. A minus stands only where
there are negative numbers. -/
inductive IntegerRange.Written (range : IntegerRange) : List Char → Int → Prop
  | digits {cs : List Char} {n : Nat} (h : IsNumeral cs n) : range.Written cs n
  | plus {cs : List Char} {n : Nat} (h : IsNumeral cs n) : range.Written ('+' :: cs) n
  | minus {cs : List Char} {n : Nat} (h : IsNumeral cs n) (hleast : range.least < 0) :
      range.Written ('-' :: cs) (-n)

theorem not_isNumeral_nil (n : Nat) : ¬IsNumeral [] n := fun h => h.nonempty rfl

theorem not_isNumeral_of_head {c : Char} (hc : c.isDigit = false) (cs : List Char) (n : Nat) :
    ¬IsNumeral (c :: cs) n := by
  intro h
  rw [h.digits c List.mem_cons_self] at hc
  cases hc

namespace IntegerRange

variable {range : IntegerRange} {cs : List Char} {i : Int}

theorem written_plus : range.Written ('+' :: cs) i ↔ ∃ n : Nat, IsNumeral cs n ∧ i = n := by
  constructor
  · rintro (⟨h⟩ | ⟨h⟩)
    · exact absurd h (not_isNumeral_of_head (by decide) cs _)
    · exact ⟨_, h, rfl⟩
  · rintro ⟨n, h, rfl⟩
    exact .plus h

theorem written_minus :
    range.Written ('-' :: cs) i ↔ range.least < 0 ∧ ∃ n : Nat, IsNumeral cs n ∧ i = -n := by
  constructor
  · rintro (⟨h⟩ | h | ⟨h, hleast⟩)
    · exact absurd h (not_isNumeral_of_head (by decide) cs _)
    · exact ⟨hleast, _, h, rfl⟩
  · rintro ⟨hleast, n, h, rfl⟩
    exact .minus h hleast

theorem written_of_no_sign (hplus : ∀ rest, cs ≠ '+' :: rest) (hminus : ∀ rest, cs ≠ '-' :: rest) :
    range.Written cs i ↔ ∃ n : Nat, IsNumeral cs n ∧ i = n := by
  constructor
  · rintro (h | h | ⟨h, -⟩)
    · exact ⟨_, h, rfl⟩
    · exact absurd rfl (hplus _)
    · exact absurd rfl (hminus _)
  · rintro ⟨n, h, rfl⟩
    exact .digits h

theorem map_readMagnitude_eq_ok_iff {bound : Nat} {overflow : IntegerError} (hcs : cs ≠ [])
    (f : Nat → Int) :
    (readMagnitude bound overflow cs 0).map f = .ok i ↔
      ∃ n, (IsNumeral cs n ∧ i = f n) ∧ n ≤ bound := by
  have hmap : (readMagnitude bound overflow cs 0).map f = .ok i ↔
      ∃ n, readMagnitude bound overflow cs 0 = .ok n ∧ i = f n := by
    cases readMagnitude bound overflow cs 0 with
    | error e => simp [Except.map]
    | ok n => simp [Except.map, eq_comm]
  simp only [hmap, readMagnitude_zero_eq_ok_iff hcs, and_right_comm]

/-- What is read is what is written, if it lies within the range. -/
theorem read_eq_ok_iff (hleast : range.least ≤ 0) (hgreatest : 0 ≤ range.greatest) {s : String} :
    range.read s = .ok i ↔
      range.Written s.toList i ∧ range.least ≤ i ∧ i ≤ range.greatest := by
  have hwhole {cs : List Char} (hcs : cs ≠ []) :
      (readMagnitude range.greatest.toNat .tooLarge cs 0).map Int.ofNat = .ok i ↔
        (∃ n : Nat, IsNumeral cs n ∧ i = n) ∧ range.least ≤ i ∧ i ≤ range.greatest := by
    rw [map_readMagnitude_eq_ok_iff hcs]
    constructor
    · rintro ⟨n, ⟨h, (hi : i = n)⟩, hle⟩
      exact ⟨⟨n, h, hi⟩, by omega, by omega⟩
    · rintro ⟨⟨n, h, rfl⟩, -, hle⟩
      exact ⟨n, ⟨h, rfl⟩, by omega⟩
  rw [read]
  split
  case h_1 hs =>
    rw [hs, written_of_no_sign (by simp) (by simp)]
    simp [not_isNumeral_nil]
  case h_2 hs =>
    rw [hs, written_plus]
    simp [not_isNumeral_nil]
  case h_3 hs =>
    rw [hs, written_minus]
    simp [not_isNumeral_nil]
  case h_4 cs hcs hs =>
    rw [hs, written_plus]
    exact hwhole hcs
  case h_5 cs hcs hs =>
    rw [hs, written_minus]
    split
    case isTrue hneg =>
      rw [map_readMagnitude_eq_ok_iff hcs]
      constructor
      · rintro ⟨n, ⟨h, (hi : i = -n)⟩, hle⟩
        exact ⟨⟨hneg, n, h, hi⟩, by omega, by omega⟩
      · rintro ⟨⟨-, n, h, rfl⟩, hle, -⟩
        exact ⟨n, ⟨h, rfl⟩, by omega⟩
    case isFalse hneg => simp [hneg]
  case h_6 hnil _ _ hplus hminus =>
    rw [written_of_no_sign hplus hminus]
    exact hwhole hnil

def Denotes (range : IntegerRange) (s : String) (i : Int) : Prop :=
  range.Written s.toList i ∧ range.least ≤ i ∧ i ≤ range.greatest

theorem denotes_iff (hleast : range.least ≤ 0) (hgreatest : 0 ≤ range.greatest) {s : String} :
    range.Denotes s i ↔ range.read s = .ok i :=
  (read_eq_ok_iff hleast hgreatest).symm

theorem read_unsigned_eq_ok_iff (hleast : range.least = 0) (hgreatest : 0 ≤ range.greatest)
    {s : String} :
    range.read s = .ok i ↔
      ∃ n : Nat, i = n ∧ IsUnsigned s.toList n ∧ (n : Int) ≤ range.greatest := by
  rw [read_eq_ok_iff (by omega) hgreatest]
  generalize s.toList = cs
  constructor
  · rintro ⟨h | h | ⟨h, hneg⟩, hle, hle'⟩
    · exact ⟨_, rfl, .inl h, hle'⟩
    · exact ⟨_, rfl, .inr ⟨_, rfl, h⟩, hle'⟩
    · omega
  · rintro ⟨n, rfl, h, hle⟩
    refine ⟨?_, by omega, hle⟩
    rcases h with h | ⟨digits, hs, h⟩
    · exact .digits h
    · exact hs ▸ .plus h

end IntegerRange

end TracerSettings
