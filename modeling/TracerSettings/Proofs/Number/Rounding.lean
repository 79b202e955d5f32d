import Mathlib.Algebra.Order.Field.Power
import Mathlib.Data.Nat.Log
import Mathlib.Data.Rat.Cast.Order
import Mathlib.Tactic.FieldSimp
import Mathlib.Tactic.Linarith
import Mathlib.Tactic.NormNum
import Mathlib.Tactic.Positivity
import Mathlib.Tactic.Ring
import TracerSettings.Number.Decimal

namespace TracerSettings

structure Format.Holds (f : Format) (m : Nat) (e : Int) : Prop where
  odd : m % 2 = 1
  precision : m.log2 < f.precision
  least : f.minExponent ≤ e
  greatest : m.log2 + e < f.maxExponent

theorem Format.Holds.ne_zero {f : Format} {m : Nat} {e : Int} (h : f.Holds m e) : m ≠ 0 := by
  rintro rfl
  cases h.odd

structure Format.Widens (g f : Format) : Prop where
  precision : f.precision ≤ g.precision
  least : g.minExponent ≤ f.minExponent
  greatest : f.maxExponent ≤ g.maxExponent

theorem Format.Widens.refl (f : Format) : f.Widens f := ⟨le_rfl, le_rfl, le_rfl⟩

theorem Format.double_widens_single : double.Widens single :=
  ⟨by decide, by decide, by decide⟩

theorem Format.Holds.widen {f g : Format} (hwidens : g.Widens f) {m : Nat} {e : Int}
    (h : f.Holds m e) : g.Holds m e where
  odd := h.odd
  precision := Nat.lt_of_lt_of_le h.precision hwidens.precision
  least := hwidens.least.trans h.least
  greatest := h.greatest.trans_le hwidens.greatest

namespace Binary

theorem scaleDown_spec (e : Int) (num : Nat) {den : Nat} (hden : 0 < den) :
    0 < (scaleDown e num den).2 ∧
      ((scaleDown e num den).1 : ℚ) / (scaleDown e num den).2 = num / den / 2 ^ e := by
  have hden' : (den : ℚ) ≠ 0 := by positivity
  rw [scaleDown]
  split
  case isTrue h =>
    refine ⟨Nat.mul_pos hden (Nat.pow_pos (by decide)), ?_⟩
    obtain ⟨n, rfl⟩ := Int.eq_ofNat_of_zero_le h
    simp [div_div]
  case isFalse h =>
    refine ⟨hden, ?_⟩
    obtain ⟨n, hn⟩ := Int.eq_ofNat_of_zero_le (Int.neg_nonneg.2 (Int.le_of_not_le h))
    obtain rfl : e = -n := by omega
    simp
    field_simp

theorem two_zpow_log2_le {n : Nat} (hn : n ≠ 0) : (2 : ℚ) ^ (n.log2 : Int) ≤ n := by
  rw [zpow_natCast]
  exact_mod_cast Nat.log2_self_le hn

theorem lt_two_zpow_log2 (n : Nat) : (n : ℚ) < 2 ^ ((n.log2 : Int) + 1) := by
  have h : n < 2 ^ (n.log2 + 1) := Nat.lt_log2_self
  exact_mod_cast h

theorem floorLog2_spec {num den : Nat} (hnum : 0 < num) (hden : 0 < den) :
    (2 : ℚ) ^ floorLog2 num den ≤ num / den ∧ (num / den : ℚ) < 2 ^ (floorLog2 num den + 1) := by
  have hden' : (0 : ℚ) < den := by positivity
  have hlow : (2 : ℚ) ^ ((num.log2 : Int) - den.log2 - 1) ≤ num / den := by
    rw [le_div_iff₀ hden', sub_sub]
    calc (2 : ℚ) ^ ((num.log2 : Int) - (den.log2 + 1)) * den
        ≤ 2 ^ ((num.log2 : Int) - (den.log2 + 1)) * 2 ^ ((den.log2 : Int) + 1) := by
          gcongr
          exact (lt_two_zpow_log2 den).le
      _ = 2 ^ (num.log2 : Int) := by rw [← zpow_add₀ two_ne_zero, sub_add_cancel]
      _ ≤ num := two_zpow_log2_le hnum.ne'
  have hhigh : (num / den : ℚ) < 2 ^ ((num.log2 : Int) - den.log2 + 1) := by
    rw [div_lt_iff₀ hden']
    calc (num : ℚ) < 2 ^ ((num.log2 : Int) + 1) := lt_two_zpow_log2 num
      _ = 2 ^ ((num.log2 : Int) - den.log2 + 1) * 2 ^ (den.log2 : Int) := by
          rw [← zpow_add₀ two_ne_zero]
          congr 1
          omega
      _ ≤ 2 ^ ((num.log2 : Int) - den.log2 + 1) * den := by
          gcongr
          exact two_zpow_log2_le hden.ne'
  obtain ⟨hpos, hquotient⟩ := scaleDown_spec ((num.log2 : Int) - den.log2) num hden
  have hle : (scaleDown ((num.log2 : Int) - den.log2) num den).2 ≤
      (scaleDown ((num.log2 : Int) - den.log2) num den).1 ↔
        (2 : ℚ) ^ ((num.log2 : Int) - den.log2) ≤ num / den := by
    have hone : (2 : ℚ) ^ ((num.log2 : Int) - den.log2) ≤ num / den ↔
        1 ≤ (num / den : ℚ) / 2 ^ ((num.log2 : Int) - den.log2) :=
      (one_le_div₀ (by positivity)).symm
    rw [hone, ← hquotient, one_le_div₀ (by exact_mod_cast hpos), Nat.cast_le]
  simp only [floorLog2, hle]
  split
  case isTrue h => exact ⟨h, hhigh⟩
  case isFalse h =>
    rw [sub_add_cancel]
    exact ⟨hlow, not_le.1 h⟩

theorem floorLog2_eq {num den : Nat} (hden : 0 < den) {k : Int} (hlow : (2 : ℚ) ^ k ≤ num / den)
    (hhigh : (num / den : ℚ) < 2 ^ (k + 1)) : floorLog2 num den = k := by
  have hnum : 0 < num := by
    rw [Nat.pos_iff_ne_zero]
    rintro rfl
    have hpos : (0 : ℚ) < 2 ^ k := by positivity
    simp at hlow
    linarith
  obtain ⟨hlow', hhigh'⟩ := floorLog2_spec hnum hden
  have hlt := (zpow_lt_zpow_iff_right₀ one_lt_two).1 (hlow.trans_lt hhigh')
  have hlt' := (zpow_lt_zpow_iff_right₀ one_lt_two).1 (hlow'.trans_lt hhigh)
  omega

/-- A quotient within half a unit of a natural number. At half a unit the number has to be even. -/
structure Near (s : Nat) (v : ℚ) : Prop where
  low : (s - 1 / 2 : ℚ) ≤ v
  high : v ≤ s + 1 / 2
  ties : s % 2 = 0 ∨ (s - 1 / 2 : ℚ) < v ∧ v < s + 1 / 2

theorem Near.roundHalfEven_eq {s n d : Nat} (hd : 0 < d) (h : Near s (n / d)) :
    roundHalfEven n d = s := by
  have hd' : (0 : ℚ) < d := by positivity
  have hlow : 2 * (d * s) ≤ 2 * n + d := by
    have := h.low
    rw [le_div_iff₀ hd'] at this
    have hcast : (2 * (d * s) : ℚ) ≤ 2 * n + d := by linarith
    exact_mod_cast hcast
  have hhigh : 2 * n ≤ 2 * (d * s) + d := by
    have := h.high
    rw [div_le_iff₀ hd'] at this
    have hcast : (2 * n : ℚ) ≤ 2 * (d * s) + d := by linarith
    exact_mod_cast hcast
  have hties : s % 2 = 0 ∨ 2 * (d * s) < 2 * n + d ∧ 2 * n < 2 * (d * s) + d := by
    refine h.ties.imp_right fun ⟨hlow, hhigh⟩ => ?_
    rw [lt_div_iff₀ hd'] at hlow
    rw [div_lt_iff₀ hd'] at hhigh
    have hlow' : (2 * (d * s) : ℚ) < 2 * n + d := by linarith
    have hhigh' : (2 * n : ℚ) < 2 * (d * s) + d := by linarith
    exact ⟨by exact_mod_cast hlow', by exact_mod_cast hhigh'⟩
  have hn : d * (n / d) + n % d = n := Nat.div_add_mod n d
  have hr : n % d < d := Nat.mod_lt n hd
  -- The quotient is the number or the one below it.
  have hle : n / d ≤ s := by
    by_contra hlt
    have hmul : d * (s + 1) ≤ d * (n / d) := Nat.mul_le_mul_left d (Nat.not_le.1 hlt)
    rw [Nat.mul_add, Nat.mul_one] at hmul
    omega
  have hge : s ≤ n / d + 1 := by
    by_contra hlt
    have hmul : d * (n / d + 2) ≤ d * s := Nat.mul_le_mul_left d (by omega)
    rw [Nat.mul_add] at hmul
    omega
  rw [roundHalfEven]
  rcases Nat.eq_or_lt_of_le hle with heq | hlt
  · rw [heq] at hn ⊢
    split
    · rfl
    · split
      · omega
      · have heven : s % 2 = 0 := by omega
        rw [heven, Nat.add_zero]
  · have hs : s = n / d + 1 := by omega
    rw [hs, Nat.mul_add, Nat.mul_one] at hlow hhigh hties
    split
    · omega
    · split
      · exact hs.symm
      · omega

theorem halve_mul (m : Nat) (hodd : m % 2 = 1) {k K : Nat} (h : k ≤ K) (e : Int) :
    halve K (m * 2 ^ k) e = (m, e + k) := by
  induction k generalizing K e with
  | zero =>
      rw [Nat.pow_zero, Nat.mul_one]
      cases K with
      | zero => rw [halve, Nat.cast_zero, add_zero]
      | succ K => rw [halve, if_neg (by omega), Nat.cast_zero, add_zero]
  | succ k ih =>
      cases K with
      | zero => omega
      | succ K =>
          rw [Nat.pow_succ, ← Nat.mul_assoc, halve, if_pos (Nat.mul_mod_left _ 2),
            Nat.mul_div_cancel _ (by decide), ih (Nat.le_of_succ_le_succ h)]
          congr 1
          omega

theorem log2_mul_two_pow {m : Nat} (hm : m ≠ 0) (k : Nat) : (m * 2 ^ k).log2 = m.log2 + k := by
  induction k with
  | zero => simp
  | succ k ih =>
      rw [Nat.pow_succ, ← Nat.mul_assoc, Nat.mul_comm, Nat.log2_two_mul (by positivity), ih]
      omega

theorem ofScaled_mul (negative : Bool) {m : Nat} (hodd : m % 2 = 1) (k : Nat) (e : Int) :
    ofScaled negative (m * 2 ^ k) e = .finite negative m (e + k) := by
  have hm : m ≠ 0 := by
    rintro rfl
    cases hodd
  have hk : k ≤ (m * 2 ^ k).log2 := by
    rw [log2_mul_two_pow hm]
    omega
  rw [ofScaled, if_neg (by positivity), halve_mul m hodd hk]

variable {f : Format} {m : Nat} {e : Int}

/-- The exponent of the last place of a number in a format. -/
def place (f : Format) (m : Nat) (e : Int) : Int :=
  max ((m.log2 : Int) + e - (f.precision - 1 : Nat)) f.minExponent

def significand (f : Format) (m : Nat) (e : Int) : Nat := m * 2 ^ (e - place f m e).toNat

section Significand

variable (hm : f.Holds m e)

include hm

theorem place_le : place f m e ≤ e := by
  have hprecision := hm.precision
  have hleast := hm.least
  rw [place]
  omega

theorem significand_mul : (significand f m e : ℚ) * 2 ^ place f m e = m * 2 ^ e := by
  have hplace := place_le hm
  have hexponent : ((e - place f m e).toNat : Int) + place f m e = e := by omega
  rw [significand, Nat.cast_mul, Nat.cast_pow, Nat.cast_ofNat, mul_assoc, ← zpow_natCast,
    ← zpow_add₀ two_ne_zero, hexponent]

theorem significand_ne_zero : significand f m e ≠ 0 := by
  have hm0 := hm.ne_zero
  rw [significand]
  positivity

theorem one_le_significand : (1 : ℚ) ≤ significand f m e := by
  exact_mod_cast Nat.pos_of_ne_zero (significand_ne_zero hm)

theorem log2_significand :
    ((significand f m e).log2 : Int) + place f m e = m.log2 + e := by
  have hplace := place_le hm
  rw [significand, log2_mul_two_pow hm.ne_zero]
  omega

theorem significand_lt : significand f m e < 2 ^ f.precision := by
  have hprecision := hm.precision
  have hlog := log2_significand hm
  have hplace : (m.log2 : Int) + e - (f.precision - 1 : Nat) ≤ place f m e := le_max_left _ _
  rw [← Nat.log2_lt (significand_ne_zero hm)]
  omega

end Significand

/-- The rational numbers that stand for a number of a format: those within half a place of it, and
below a power of two within a quarter. -/
structure Within (f : Format) (m : Nat) (e : Int) (v : ℚ) : Prop where
  near : Near (significand f m e) (v / 2 ^ place f m e)
  below : significand f m e = 2 ^ (f.precision - 1) →
    (significand f m e - 1 / 4 : ℚ) ≤ v / 2 ^ place f m e

section Round

variable {negative : Bool} {num den : Nat}

theorem floorLog2_eq_add (hden : 0 < den) {k q : Int} (hlow : (2 : ℚ) ^ k ≤ num / den / 2 ^ q)
    (hhigh : (num / den / 2 ^ q : ℚ) < 2 ^ (k + 1)) : floorLog2 num den = k + q := by
  have hpos : (0 : ℚ) < 2 ^ q := by positivity
  rw [le_div_iff₀ hpos, ← zpow_add₀ two_ne_zero] at hlow
  rw [div_lt_iff₀ hpos, ← zpow_add₀ two_ne_zero, add_right_comm] at hhigh
  exact floorLog2_eq hden hlow hhigh

theorem round_eq (hm : f.Holds m e) (hnum : num ≠ 0) (hden : 0 < den) {q : Int}
    (hq : max (floorLog2 num den - (f.precision - 1 : Nat)) f.minExponent = q) (hqe : q ≤ e)
    (hnear : Near (m * 2 ^ (e - q).toNat) (num / den / 2 ^ q)) :
    round f negative num den = .finite negative m e := by
  have hm0 := hm.ne_zero
  obtain ⟨hpos, hquotient⟩ := scaleDown_spec q num hden
  rw [← hquotient] at hnear
  have hlog := log2_mul_two_pow hm0 (e - q).toNat
  have hgreatest := hm.greatest
  simp only [round, if_neg hnum, hq, hnear.roundHalfEven_eq hpos]
  rw [if_neg (by positivity), if_neg (by omega), ofScaled_mul negative hm.odd]
  congr 1
  omega

theorem Within.num_ne_zero (hm : f.Holds m e) (h : Within f m e (num / den)) : num ≠ 0 := by
  rintro rfl
  have hlow := h.near.low
  rw [Nat.cast_zero, zero_div, zero_div] at hlow
  linarith [one_le_significand hm]

theorem round_eq_of_lt (hm : f.Holds m e) (hden : 0 < den) (h : Within f m e (num / den))
    (hlt : (num / den / 2 ^ place f m e : ℚ) < 2 ^ ((significand f m e).log2 : Int)) :
    round f negative num den = .finite negative m e := by
  have hnum := h.num_ne_zero hm
  have hone := one_le_significand hm
  have hlog := log2_significand hm
  have hpower : significand f m e = 2 ^ (significand f m e).log2 := by
    have hhigh : (significand f m e : ℚ) < 2 ^ ((significand f m e).log2 : Int) + 1 := by
      linarith [h.near.low]
    rw [zpow_natCast] at hhigh
    have hhigh' : significand f m e < 2 ^ (significand f m e).log2 + 1 := by exact_mod_cast hhigh
    have hlow := Nat.log2_self_le (significand_ne_zero hm)
    omega
  have hpower' : (significand f m e : ℚ) = 2 ^ ((significand f m e).log2 : Int) := by
    exact_mod_cast hpower
  have hhalf : (2 : ℚ) ^ (((significand f m e).log2 : Int) - 1) ≤ num / den / 2 ^ place f m e := by
    rw [zpow_sub_one₀ two_ne_zero, ← hpower']
    linarith [h.near.low]
  have hfloor := floorLog2_eq_add hden hhalf (by rwa [sub_add_cancel])
  have hplace := place_le hm
  have hle : (m.log2 : Int) + e - (f.precision - 1 : Nat) ≤ place f m e := le_max_left _ _
  by_cases hleast : place f m e = f.minExponent
  · exact round_eq hm hnum hden (by omega) hplace h.near
  · have hmax : place f m e = (m.log2 : Int) + e - (f.precision - 1 : Nat) :=
      (max_choice _ _).resolve_right hleast
    have hmin : f.minExponent < place f m e := lt_of_le_of_ne (le_max_right _ _) (Ne.symm hleast)
    have hlast : (significand f m e).log2 = f.precision - 1 := by omega
    have hquarter := h.below (hlast ▸ hpower)
    have hdouble : m * 2 ^ (e - (place f m e - 1)).toNat = 2 * significand f m e := by
      have hexponent : (e - (place f m e - 1)).toNat = (e - place f m e).toNat + 1 := by omega
      rw [hexponent, Nat.pow_succ, ← Nat.mul_assoc, Nat.mul_comm, significand]
    have hscaled : (num / den / 2 ^ (place f m e - 1) : ℚ) = 2 * (num / den / 2 ^ place f m e) := by
      rw [zpow_sub_one₀ two_ne_zero]
      field_simp
    refine round_eq hm hnum hden (q := place f m e - 1) (by omega) (by omega) ?_
    rw [hdouble, hscaled]
    refine ⟨?_, ?_, .inl (Nat.mul_mod_right 2 _)⟩
    · push_cast
      linarith
    · push_cast
      linarith

/-- What stands for a number rounds to it. -/
theorem round_eq_of_within (hm : f.Holds m e) (hden : 0 < den) (h : Within f m e (num / den)) :
    round f negative num den = .finite negative m e := by
  by_cases hw : (2 : ℚ) ^ ((significand f m e).log2 : Int) ≤ num / den / 2 ^ place f m e
  · have hhigh : (significand f m e + 1 : ℚ) ≤ 2 ^ (((significand f m e).log2 : Int) + 1) := by
      have hlt : significand f m e < 2 ^ ((significand f m e).log2 + 1) := Nat.lt_log2_self
      exact_mod_cast hlt
    have hfloor := floorLog2_eq_add hden hw (by linarith [h.near.high])
    rw [log2_significand hm] at hfloor
    exact round_eq hm (h.num_ne_zero hm) hden (by rw [hfloor, place]) (place_le hm) h.near
  · exact round_eq_of_lt hm hden h (not_le.1 hw)

end Round

theorem Within.bounds (hm : f.Holds m e) {v : ℚ} (h : Within f m e v) :
    (2 : ℚ) ^ (f.minExponent - 1) ≤ v ∧ v < 2 ^ f.maxExponent := by
  have hone := one_le_significand hm
  have hlow := h.near.low
  have hhigh := h.near.high
  rw [le_div_iff₀ (by positivity)] at hlow
  rw [div_le_iff₀ (by positivity)] at hhigh
  constructor
  · calc (2 : ℚ) ^ (f.minExponent - 1) ≤ 2 ^ (place f m e - 1) := by
          gcongr
          · norm_num
          · exact le_max_right _ _
      _ = 1 / 2 * 2 ^ place f m e := by
          rw [zpow_sub_one₀ two_ne_zero]
          ring
      _ ≤ (significand f m e - 1 / 2) * 2 ^ place f m e := by
          gcongr
          linarith
      _ ≤ v := hlow
  · have hplace := place_le hm
    have hgreatest := hm.greatest
    obtain ⟨k, hk⟩ := Int.eq_ofNat_of_zero_le (show 0 ≤ f.maxExponent - place f m e by omega)
    have hlt : significand f m e < 2 ^ k := by
      have hlog := log2_significand hm
      rw [← Nat.log2_lt (significand_ne_zero hm)]
      omega
    have hle : (significand f m e + 1 : ℚ) ≤ 2 ^ k := by exact_mod_cast hlt
    calc v ≤ (significand f m e + 1 / 2) * 2 ^ place f m e := hhigh
      _ < 2 ^ k * 2 ^ place f m e := by
          gcongr
          linarith
      _ = 2 ^ f.maxExponent := by
          rw [← zpow_natCast, ← zpow_add₀ two_ne_zero]
          congr 1
          omega

theorem toDigits_bounds {n : Nat} (hn : n ≠ 0) :
    10 ^ ((Nat.toDigits 10 n).length - 1) ≤ n ∧ n < 10 ^ (Nat.toDigits 10 n).length := by
  have hpos : 0 < (Nat.toDigits 10 n).length := List.length_pos_of_ne_nil Nat.toDigits_ne_nil
  refine ⟨?_, (Nat.length_toDigits_le_iff (by decide) hpos).1 (Nat.le_refl _)⟩
  rcases Nat.eq_zero_or_pos ((Nat.toDigits 10 n).length - 1) with hzero | hlast
  · rw [hzero]
    exact Nat.one_le_iff_ne_zero.2 hn
  · by_contra hlt
    have hle := (Nat.length_toDigits_le_iff (by decide) hlast).2 (Nat.not_le.1 hlt)
    omega

theorem ten_zpow_le_two_zpow {x : Int} (hx : x ≤ 0) : (10 : ℚ) ^ x ≤ 2 ^ x := by
  have hinverse := zpow_le_zpow_left₀ (Int.neg_nonneg.2 hx) (by norm_num : (0 : ℚ) ≤ 2)
    (by norm_num : (2 : ℚ) ≤ 10)
  rwa [zpow_neg, zpow_neg, inv_le_inv₀ (by positivity) (by positivity)] at hinverse

theorem decimal_bounds {n : Nat} (hn : n ≠ 0) (x : Int) :
    (10 : ℚ) ^ (x + (Nat.toDigits 10 n).length - 1) ≤ n * 10 ^ x ∧
      (n * 10 ^ x : ℚ) < 10 ^ (x + (Nat.toDigits 10 n).length) := by
  obtain ⟨hlow, hhigh⟩ := toDigits_bounds hn
  have hpos : 0 < (Nat.toDigits 10 n).length := List.length_pos_of_ne_nil Nat.toDigits_ne_nil
  generalize (Nat.toDigits 10 n).length = count at *
  have hlow' : (10 : ℚ) ^ (count - 1) ≤ n := by exact_mod_cast hlow
  have hhigh' : (n : ℚ) < 10 ^ count := by exact_mod_cast hhigh
  have hexponent : x + count - 1 = ((count - 1 : Nat) : Int) + x := by omega
  rw [hexponent, add_comm x, zpow_add₀ (by norm_num), zpow_add₀ (by norm_num), zpow_natCast,
    zpow_natCast]
  exact ⟨by gcongr, by gcongr⟩

/-- A decimal that stands for a number is read as that number. -/
theorem ofDecimal_eq_of_within {negative : Bool} {n : Nat} {x : Int} (hm : f.Holds m e)
    (hmin : f.minExponent ≤ 0) (hmax : 0 ≤ f.maxExponent) (h : Within f m e (n * 10 ^ x)) :
    ofDecimal f negative n x = .finite negative m e := by
  obtain ⟨hlow, hhigh⟩ := h.bounds hm
  have hn : n ≠ 0 := by
    rintro rfl
    have hpos : (0 : ℚ) < 2 ^ (f.minExponent - 1) := by positivity
    rw [Nat.cast_zero, zero_mul] at hlow
    linarith
  obtain ⟨hdigits, hdigits'⟩ := decimal_bounds hn x
  have htop : ¬f.maxExponent < x + (Nat.toDigits 10 n).length := by
    intro hlt
    have hpow : (2 : ℚ) ^ f.maxExponent ≤ 10 ^ f.maxExponent :=
      zpow_le_zpow_left₀ hmax (by norm_num) (by norm_num)
    have hpow' : (10 : ℚ) ^ f.maxExponent ≤ 10 ^ (x + (Nat.toDigits 10 n).length - 1) :=
      zpow_le_zpow_right₀ (by norm_num) (by omega)
    linarith
  have hbottom : ¬x + (Nat.toDigits 10 n).length < f.minExponent - 1 := by
    intro hlt
    have hpow := ten_zpow_le_two_zpow (show x + (Nat.toDigits 10 n).length ≤ 0 by omega)
    have hpow' : (2 : ℚ) ^ (x + (Nat.toDigits 10 n).length) ≤ 2 ^ (f.minExponent - 1) :=
      zpow_le_zpow_right₀ (by norm_num) hlt.le
    linarith
  rw [ofDecimal, if_neg hn]
  simp only [if_neg htop, if_neg hbottom]
  split
  case isTrue hx =>
    obtain ⟨k, rfl⟩ := Int.eq_ofNat_of_zero_le hx
    apply round_eq_of_within hm Nat.one_pos
    simpa using h
  case isFalse hx =>
    obtain ⟨k, hk⟩ := Int.eq_ofNat_of_zero_le (Int.neg_nonneg.2 (Int.le_of_not_le hx))
    obtain rfl : x = -k := by omega
    apply round_eq_of_within hm (Nat.pow_pos (by decide))
    rw [zpow_neg, ← div_eq_mul_inv, zpow_natCast] at h
    simpa using h

end Binary

end TracerSettings
