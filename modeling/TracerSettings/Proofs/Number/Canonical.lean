import Mathlib.Data.Nat.Factorization.Basic
import TracerSettings.Proofs.Number.Positional

namespace TracerSettings

namespace Binary

variable {f g : Format}

theorem IsFinite.widen (hwidens : g.Widens f) {x : Binary} (h : IsFinite f x) : IsFinite g x := by
  cases h with
  | zero negative => exact .zero negative
  | nonzero h => exact .nonzero (h.widen hwidens)

theorem IsFinite.isNumber {x : Binary} (h : IsFinite f x) : IsNumber f x := by
  cases h with
  | zero negative => exact .zero negative
  | nonzero h => exact .nonzero h

theorem IsNumber.widen (hwidens : g.Widens f) {x : Binary} (h : IsNumber f x) : IsNumber g x := by
  cases x with
  | finite => exact IsFinite.widen hwidens h
  | _ => trivial

theorem isFinite_ofScaled {negative : Bool} {q : Nat} {e : Int} (hq : q ≠ 0)
    (hprecision : q ≤ 2 ^ f.precision) (hpos : 0 < f.precision) (hleast : f.minExponent ≤ e)
    (hgreatest : q.log2 + e < f.maxExponent) : IsFinite f (ofScaled negative q e) := by
  obtain ⟨k, m, hodd, rfl⟩ := Nat.exists_eq_two_pow_mul_odd hq
  have hodd' : m % 2 = 1 := Nat.odd_iff.1 hodd
  have hm : m ≠ 0 := by
    rintro rfl
    cases hodd'
  rw [Nat.mul_comm] at hprecision hgreatest ⊢
  rw [ofScaled_mul negative hodd']
  rw [log2_mul_two_pow hm] at hgreatest
  have hle : m ≤ 2 ^ f.precision := (Nat.le_mul_of_pos_right m (by positivity)).trans hprecision
  -- An odd number is not the power of two itself.
  have hne : m ≠ 2 ^ f.precision := by
    rintro rfl
    have heven : 2 ^ f.precision % 2 = 0 := Nat.mod_eq_zero_of_dvd (dvd_pow_self 2 (by omega))
    omega
  refine .nonzero ⟨hodd', (Nat.log2_lt hm).2 (Nat.lt_of_le_of_ne hle hne), by omega, ?_⟩
  push_cast at hgreatest
  omega

theorem roundHalfEven_le {n d b : Nat} (hd : 0 < d) (h : (n / d : ℚ) < b) :
    roundHalfEven n d ≤ b := by
  have hlt : n / d < b := by
    rw [Nat.div_lt_iff_lt_mul hd]
    rw [div_lt_iff₀ (by positivity)] at h
    exact_mod_cast h
  rw [roundHalfEven]
  have hmod := Nat.mod_lt (n / d) (by decide : 0 < 2)
  split
  · omega
  · split <;> omega

theorem isNumber_round (negative : Bool) (num : Nat) {den : Nat} (hpos : 0 < f.precision)
    (hden : 0 < den) : IsNumber f (round f negative num den) := by
  rw [round]
  split
  case isTrue => exact .zero negative
  case isFalse hnum =>
    have hfloor := (floorLog2_spec (Nat.pos_of_ne_zero hnum) hden).2
    dsimp only
    generalize he : max (floorLog2 num den - (f.precision - 1 : Nat)) f.minExponent = e
    obtain ⟨hd, hscale⟩ := scaleDown_spec e num hden
    have hsmall : ((scaleDown e num den).1 / (scaleDown e num den).2 : ℚ) <
        (2 ^ f.precision : Nat) := by
      rw [hscale, div_lt_iff₀ (by positivity)]
      refine hfloor.trans_le ?_
      push_cast
      rw [← zpow_natCast, ← zpow_add₀ two_ne_zero]
      exact zpow_le_zpow_right₀ one_le_two (by omega)
    have hle := roundHalfEven_le hd hsmall
    split
    case isTrue => exact .zero negative
    case isFalse hq =>
      split
      case isTrue => trivial
      case isFalse hgreatest =>
        exact (isFinite_ofScaled hq hle hpos (by omega) (by omega)).isNumber

theorem isNumber_ofDecimal (negative : Bool) (m : Nat) (x : Int) (hpos : 0 < f.precision) :
    IsNumber f (ofDecimal f negative m x) := by
  rw [ofDecimal]
  split
  · exact .zero negative
  · dsimp only
    split
    · trivial
    · split
      · exact .zero negative
      · split
        · exact isNumber_round negative _ hpos (by decide)
        · exact isNumber_round negative _ hpos (Nat.pow_pos (by decide))

theorem isNumber_special? {negative : Bool} {cs : List Char} {x : Binary}
    (h : special? negative cs = some x) : IsNumber f x := by
  unfold special? at h
  split at h
  all_goals
    cases h
    try trivial

theorem isNumber_read (hpos : 0 < f.precision) {s : String} {x : Binary}
    (h : read f s = .ok x) : IsNumber f x := by
  unfold read at h
  split at h
  · cases h
  · dsimp only at h
    split at h
    · cases h
      exact isNumber_ofDecimal _ _ _ hpos
    · split at h
      case h_1 hspecial =>
        cases h
        exact isNumber_special? hspecial
      case h_2 => cases h

end Binary

end TracerSettings
