import Mathlib.Data.Nat.Cast.Order.Field
import TracerSettings.Number.Shortest
import TracerSettings.Proofs.Number.Rounding

namespace TracerSettings.Binary

variable {f : Format} {m : Nat} {e : Int}

theorem decimalLe_iff {a num den : Nat} {x : Int} (hden : 0 < den) :
    decimalLe a x num den = true ↔ (a * 10 ^ x : ℚ) ≤ num / den := by
  have hden' : (0 : ℚ) < den := by positivity
  rw [decimalLe]
  split
  case isTrue hx =>
    obtain ⟨k, rfl⟩ := Int.eq_ofNat_of_zero_le hx
    rw [le_div_iff₀ hden', decide_eq_true_iff]
    simp only [Int.toNat_natCast, zpow_natCast]
    exact_mod_cast Iff.rfl
  case isFalse hx =>
    obtain ⟨k, hk⟩ := Int.eq_ofNat_of_zero_le (Int.neg_nonneg.2 (Int.le_of_not_le hx))
    obtain rfl : x = -k := by omega
    rw [zpow_neg, ← div_eq_mul_inv, div_le_div_iff₀ (by positivity) hden', decide_eq_true_iff]
    simp only [neg_neg, Int.toNat_natCast, zpow_natCast]
    exact_mod_cast Iff.rfl

theorem leDecimal_iff {a num den : Nat} {x : Int} (hden : 0 < den) :
    leDecimal num den a x = true ↔ (num / den : ℚ) ≤ a * 10 ^ x := by
  have hden' : (0 : ℚ) < den := by positivity
  rw [leDecimal]
  split
  case isTrue hx =>
    obtain ⟨k, rfl⟩ := Int.eq_ofNat_of_zero_le hx
    rw [div_le_iff₀ hden', decide_eq_true_iff]
    simp only [Int.toNat_natCast, zpow_natCast]
    exact_mod_cast Iff.rfl
  case isFalse hx =>
    obtain ⟨k, hk⟩ := Int.eq_ofNat_of_zero_le (Int.neg_nonneg.2 (Int.le_of_not_le hx))
    obtain rfl : x = -k := by omega
    rw [zpow_neg, ← div_eq_mul_inv, div_le_div_iff₀ hden' (by positivity), decide_eq_true_iff]
    simp only [neg_neg, Int.toNat_natCast, zpow_natCast]
    exact_mod_cast Iff.rfl

theorem floorUnits_spec (num : Nat) {den : Nat} (hden : 0 < den) (x : Int) :
    (floorUnits num den x * 10 ^ x : ℚ) ≤ num / den ∧
      (num / den : ℚ) < (floorUnits num den x + 1) * 10 ^ x := by
  have hden' : (0 : ℚ) < den := by positivity
  have hquotient (n d : Nat) (hd : 0 < d) :
      ((n / d : Nat) : ℚ) ≤ n / d ∧ (n / d : ℚ) < (n / d : Nat) + 1 := by
    have hd' : (0 : ℚ) < d := by positivity
    refine ⟨Nat.cast_div_le, ?_⟩
    rw [div_lt_iff₀ hd']
    exact_mod_cast Nat.lt_mul_of_div_lt (Nat.lt_succ_self (n / d)) hd
  rw [floorUnits]
  split
  case isTrue hx =>
    obtain ⟨k, rfl⟩ := Int.eq_ofNat_of_zero_le hx
    obtain ⟨hlow, hhigh⟩ := hquotient num (den * 10 ^ k) (by positivity)
    rw [Nat.cast_mul, Nat.cast_pow, Nat.cast_ofNat, ← div_div] at hlow hhigh
    rw [le_div_iff₀ (by positivity)] at hlow
    rw [div_lt_iff₀ (by positivity)] at hhigh
    simp only [Int.toNat_natCast, zpow_natCast]
    exact ⟨hlow, hhigh⟩
  case isFalse hx =>
    obtain ⟨k, hk⟩ := Int.eq_ofNat_of_zero_le (Int.neg_nonneg.2 (Int.le_of_not_le hx))
    obtain rfl : x = -k := by omega
    obtain ⟨hlow, hhigh⟩ := hquotient (num * 10 ^ k) den hden
    rw [Nat.cast_mul, Nat.cast_pow, Nat.cast_ofNat, mul_div_right_comm] at hlow hhigh
    simp only [neg_neg, Int.toNat_natCast, zpow_neg, zpow_natCast]
    rw [← div_eq_mul_inv, ← div_eq_mul_inv, div_le_iff₀ (by positivity),
      lt_div_iff₀ (by positivity)]
    exact ⟨hlow, hhigh⟩

/-- What a neighbourhood is in rational numbers: the last places of the number are counted. -/
structure Neighbourhood.Describes (n : Neighbourhood) (f : Format) (m : Nat) (e : Int) : Prop where
  den : 0 < n.den
  value : (n.value / n.den : ℚ) = significand f m e * 2 ^ place f m e
  low : (n.low / n.den : ℚ) = (significand f m e -
    (if significand f m e = 2 ^ (f.precision - 1) then 1 / 4 else 1 / 2)) * 2 ^ place f m e
  high : (n.high / n.den : ℚ) = (significand f m e + 1 / 2) * 2 ^ place f m e
  closed : n.closed = true ↔ significand f m e % 2 = 0

theorem neighbourhood_describes (hm : f.Holds m e) : (neighbourhood f m e).Describes f m e := by
  -- All numerators are counted in quarters of a place.
  have hunit (q : Int) : ((if 2 ≤ q then Nat.pow 2 (q - 2).toNat else 1 : Nat) : ℚ) /
      (if 2 ≤ q then 1 else Nat.pow 2 (2 - q).toNat : Nat) = 2 ^ q / 4 := by
    by_cases hq : 2 ≤ q
    · obtain ⟨k, hk⟩ := Int.eq_ofNat_of_zero_le (Int.sub_nonneg.2 hq)
      obtain rfl : q = k + 2 := by omega
      rw [if_pos hq, if_pos hq, zpow_add₀ two_ne_zero]
      norm_num
    · obtain ⟨k, hk⟩ := Int.eq_ofNat_of_zero_le (Int.sub_nonneg.2 (Int.le_of_not_le hq))
      obtain rfl : q = 2 - k := by omega
      rw [if_neg hq, if_neg hq, zpow_sub₀ two_ne_zero]
      norm_num
      field_simp
  have hquotient (n : Nat) (q : Int) :
      ((n * (if 2 ≤ q then Nat.pow 2 (q - 2).toNat else 1) : Nat) : ℚ) /
        (if 2 ≤ q then 1 else Nat.pow 2 (2 - q).toNat : Nat) = n / 4 * 2 ^ q := by
    rw [Nat.cast_mul, mul_div_assoc, hunit]
    ring
  have hs := Nat.pos_of_ne_zero (significand_ne_zero hm)
  have hdown : (if significand f m e = 2 ^ (f.precision - 1) then 1 else 2) ≤
      4 * significand f m e := by
    split <;> omega
  constructor
  case den =>
    show 0 < if 2 ≤ place f m e then 1 else Nat.pow 2 (2 - place f m e).toNat
    split
    · exact Nat.one_pos
    · exact Nat.pow_pos (by decide)
  case value =>
    refine (hquotient (4 * significand f m e) (place f m e)).trans ?_
    push_cast
    ring
  case low =>
    refine (hquotient (4 * significand f m e -
      if significand f m e = 2 ^ (f.precision - 1) then 1 else 2) (place f m e)).trans ?_
    rw [Nat.cast_sub hdown]
    split
    · push_cast
      ring
    · push_cast
      ring
  case high =>
    refine (hquotient (4 * significand f m e + 2) (place f m e)).trans ?_
    push_cast
    ring
  case closed => exact beq_iff_eq

theorem Neighbourhood.Describes.within {n : Neighbourhood} (h : n.Describes f m e) {a : Nat}
    {x : Int} (hcontains : n.contains a x = true) : Within f m e (a * 10 ^ x) := by
  have hpos : (0 : ℚ) < 2 ^ place f m e := by positivity
  have hdown :
      (if significand f m e = 2 ^ (f.precision - 1) then (1 : ℚ) / 4 else 1 / 2) ≤ 1 / 2 := by
    split <;> norm_num
  rw [Neighbourhood.contains] at hcontains
  split at hcontains
  case isTrue hclosed =>
    rw [Bool.and_eq_true, leDecimal_iff h.den, decimalLe_iff h.den, h.low, h.high,
      ← le_div_iff₀ hpos, ← div_le_iff₀ hpos] at hcontains
    obtain ⟨hlow, hhigh⟩ := hcontains
    refine ⟨⟨by linarith, hhigh, .inl (h.closed.1 hclosed)⟩, fun htop => ?_⟩
    rwa [if_pos htop] at hlow
  case isFalse =>
    rw [Bool.and_eq_true, Bool.not_eq_true', Bool.not_eq_true', ← Bool.not_eq_true,
      ← Bool.not_eq_true, leDecimal_iff h.den, decimalLe_iff h.den, h.low, h.high, not_le, not_le,
      ← lt_div_iff₀ hpos, ← div_lt_iff₀ hpos] at hcontains
    obtain ⟨hlow, hhigh⟩ := hcontains
    refine ⟨⟨by linarith, hhigh.le, .inr ⟨by linarith, hhigh⟩⟩, fun htop => ?_⟩
    rw [if_pos htop] at hlow
    exact hlow.le

theorem Neighbourhood.contains_of_onGrid {n : Neighbourhood} {tie : Tie} {x : Int} {d : Decimal}
    (h : n.onGrid tie x = some d) : n.contains d.digits d.exponent = true := by
  unfold onGrid at h
  dsimp only at h
  split at h
  · split at h
    · cases h
      assumption
    · cases h
      assumption
  · cases h
    assumption
  · cases h
    assumption
  · cases h

theorem Neighbourhood.Describes.exists_onGrid {n : Neighbourhood} (h : n.Describes f m e)
    (tie : Tie) {x : Int} (hx : (10 : ℚ) ^ x ≤ 2 ^ place f m e / 4) :
    ∃ d, n.onGrid tie x = some d := by
  obtain ⟨hbelow, habove⟩ := floorUnits_spec n.value h.den x
  have hdown : (1 : ℚ) / 4 ≤
      if significand f m e = 2 ^ (f.precision - 1) then 1 / 4 else 1 / 2 := by
    split <;> norm_num
  have hpos : (0 : ℚ) < 2 ^ place f m e := by positivity
  have hlow : (n.low / n.den : ℚ) < floorUnits n.value n.den x * 10 ^ x := by
    rw [h.value] at habove
    rw [h.low]
    nlinarith
  have hhigh : (floorUnits n.value n.den x * 10 ^ x : ℚ) < n.high / n.den := by
    rw [h.value] at hbelow
    rw [h.high]
    linarith
  have hcontains : n.contains (floorUnits n.value n.den x) x = true := by
    rw [contains]
    split
    · rw [Bool.and_eq_true, leDecimal_iff h.den, decimalLe_iff h.den]
      exact ⟨hlow.le, hhigh.le⟩
    · rw [Bool.and_eq_true, Bool.not_eq_true', Bool.not_eq_true', ← Bool.not_eq_true,
        ← Bool.not_eq_true, leDecimal_iff h.den, decimalLe_iff h.den, not_le, not_le]
      exact ⟨hlow, hhigh⟩
  unfold onGrid
  dsimp only
  rw [hcontains]
  cases n.contains (floorUnits n.value n.den x + 1) x with
  | true =>
      dsimp only
      split
      · exact ⟨_, rfl⟩
      · exact ⟨_, rfl⟩
  | false => exact ⟨_, rfl⟩

theorem ten_zpow_guess_le {b : Int} (hlow : -1100 < b) (hhigh : b < 1100) :
    (10 : ℚ) ^ (Int.fdiv (b * 30103) 100000 - 2) ≤ 2 ^ b := by
  have hpositive : ∀ k : Nat, k < 1100 →
      decimalLe 1 (Int.fdiv ((k : Int) * 30103) 100000 - 2) (Nat.pow 2 k) 1 = true := by
    decide +kernel
  have hnegative : ∀ k : Nat, k < 1100 →
      decimalLe 1 (Int.fdiv (-(k : Int) * 30103) 100000 - 2) 1 (Nat.pow 2 k) = true := by
    decide +kernel
  obtain ⟨k, rfl | rfl⟩ := b.eq_nat_or_neg
  · have hle := (decimalLe_iff Nat.one_pos).1 (hpositive k (by omega))
    simpa using hle
  · have hle := (decimalLe_iff (Nat.pow_pos (by decide))).1 (hnegative k (by omega))
    rw [zpow_neg]
    simpa using hle

theorem Neighbourhood.Describes.floorLog10_le {n : Neighbourhood} (h : n.Describes f m e)
    (hm : f.Holds m e) {k : Nat} (hden : n.den = 2 ^ k) (hlow : -1100 < (m.log2 : Int) + e)
    (hhigh : (m.log2 : Int) + e < 1100) : (10 : ℚ) ^ n.floorLog10 ≤ n.value / n.den := by
  have hvalue : (n.value / n.den : ℚ) = m * 2 ^ e := by rw [h.value, significand_mul hm]
  have hm0 := hm.ne_zero
  have hvalue0 : n.value ≠ 0 := by
    intro hzero
    rw [hzero, Nat.cast_zero, zero_div] at hvalue
    have hpos : (0 : ℚ) < m * 2 ^ e := by positivity
    exact hpos.ne hvalue
  have hlog : (2 : ℚ) ^ ((n.value.log2 : Int) - n.den.log2) ≤ n.value / n.den ∧
      (n.value / n.den : ℚ) < 2 ^ ((n.value.log2 : Int) - n.den.log2 + 1) := by
    rw [hden, Nat.log2_two_pow, sub_add_eq_add_sub, zpow_sub₀ two_ne_zero, zpow_sub₀ two_ne_zero,
      zpow_natCast 2 k, Nat.cast_pow, Nat.cast_ofNat]
    exact ⟨by gcongr; exact two_zpow_log2_le hvalue0, by gcongr; exact lt_two_zpow_log2 _⟩
  have hexponent : (n.value.log2 : Int) - n.den.log2 = m.log2 + e := by
    have hfloor : (2 : ℚ) ^ ((m.log2 : Int) + e) ≤ m * 2 ^ e ∧
        (m * 2 ^ e : ℚ) < 2 ^ ((m.log2 : Int) + e + 1) := by
      rw [add_right_comm, zpow_add₀ two_ne_zero, zpow_add₀ two_ne_zero]
      exact ⟨by gcongr; exact two_zpow_log2_le hm0, by gcongr; exact lt_two_zpow_log2 m⟩
    rw [← hvalue] at hfloor
    have hlt := (zpow_lt_zpow_iff_right₀ one_lt_two).1 (hlog.1.trans_lt hfloor.2)
    have hlt' := (zpow_lt_zpow_iff_right₀ one_lt_two).1 (hfloor.1.trans_lt hlog.2)
    omega
  have hguess := ten_zpow_guess_le hlow hhigh
  rw [floorLog10]
  simp only [hexponent]
  generalize Int.fdiv (((m.log2 : Int) + e) * 30103) 100000 - 2 = guess at *
  cases hfind : [4, 3, 2, 1].find? fun k => decimalLe 1 (guess + (k : Nat)) n.value n.den with
  | some k =>
      have hfits := List.find?_some hfind
      rw [decimalLe_iff h.den, Nat.cast_one, one_mul] at hfits
      exact hfits
  | none =>
      rw [Option.getD_none, Nat.cast_zero, add_zero]
      rw [← hexponent] at hguess
      exact hguess.trans hlog.1

def Decimal.value (d : Decimal) : ℚ := d.digits * 10 ^ d.exponent

theorem value_trimZeros (k : Nat) (d : Decimal) : (trimZeros k d).value = d.value := by
  induction k generalizing d with
  | zero => rfl
  | succ k ih =>
      rw [trimZeros]
      split
      case isTrue h =>
        have hdigits : (d.digits : ℚ) = (d.digits / 10 : Nat) * 10 := by
          exact_mod_cast (Nat.div_mul_cancel (Nat.dvd_of_mod_eq_zero h)).symm
        rw [ih, Decimal.value, Decimal.value, hdigits, zpow_add_one₀ (by norm_num)]
        ring
      case isFalse => rfl

/-- In double precision or less, the shortest decimal of a number stands for it. -/
theorem within_shortest (tie : Tie) (hf : Format.double.Widens f) (hm : f.Holds m e) :
    Within f m e (shortest tie f m e).value := by
  have hn := neighbourhood_describes hm
  have hden : ∃ k, (neighbourhood f m e).den = 2 ^ k := by
    show ∃ k, (if 2 ≤ place f m e then 1 else Nat.pow 2 (2 - place f m e).toNat) = 2 ^ k
    split
    · exact ⟨0, rfl⟩
    · exact ⟨_, rfl⟩
  obtain ⟨k, hk⟩ := hden
  have hleast : -1074 ≤ e := (hm.widen hf).least
  have hgreatest : (m.log2 : Int) + e < 1024 := (hm.widen hf).greatest
  have htop := hn.floorLog10_le hm hk (by omega) (by omega)
  rw [shortest, value_trimZeros]
  generalize neighbourhood f m e = n at *
  -- Seventeen digits are always enough.
  have hfine : (10 : ℚ) ^ (n.floorLog10 - (17 : Nat)) ≤ 2 ^ place f m e / 4 := by
    have hs : (significand f m e : ℚ) ≤ 2 ^ 53 := by
      exact_mod_cast (significand_lt hm).le.trans (Nat.pow_le_pow_right two_pos hf.precision)
    have hpos : (0 : ℚ) < 2 ^ place f m e := by positivity
    rw [hn.value] at htop
    rw [zpow_sub₀ (by norm_num), zpow_natCast, div_le_iff₀ (by positivity)]
    nlinarith
  obtain ⟨d, hd⟩ := hn.exists_onGrid tie hfine
  obtain ⟨d', hd'⟩ : ∃ d', (List.range 18).findSome? (fun k : Nat =>
      n.onGrid tie (n.floorLog10 - k)) = some d' :=
    Option.isSome_iff_exists.1 (List.findSome?_isSome_iff.2 ⟨17, by simp, by rw [hd]; rfl⟩)
  obtain ⟨k, -, hk⟩ := List.exists_of_findSome?_eq_some hd'
  simp only [hd', Option.getD_some]
  exact hn.within (Neighbourhood.contains_of_onGrid hk)

end TracerSettings.Binary
