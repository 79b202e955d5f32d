import TracerSettings.Proofs.Number.Integer
import TracerSettings.Proofs.Number.Shortest
import TracerSettings.Proofs.Text.Cut

namespace TracerSettings

theorem head?_toDigits_ne_zero {n : Nat} (hn : n ≠ 0) : (Nat.toDigits 10 n).head? ≠ some '0' := by
  induction n using Nat.strongRecOn with
  | ind n ih =>
      rw [Nat.toDigits_eq_if (by decide)]
      split
      case isTrue hlt =>
        have hall : ∀ n < 10, n ≠ 0 → n.digitChar ≠ '0' := by decide
        simpa using hall n hlt hn
      case isFalse hlt =>
        have hdiv : n / 10 ≠ 0 := by omega
        rw [List.head?_append_of_ne_nil _ Nat.toDigits_ne_nil]
        exact ih (n / 10) (by omega) hdiv

namespace Binary

structure IsWhole (cs : List Char) : Prop where
  ne_nil : cs ≠ []
  digits : ∀ c ∈ cs, c.isDigit = true
  leading : cs = ['0'] ∨ cs.head? ≠ some '0'

theorem isWhole_zero : IsWhole ['0'] := ⟨List.cons_ne_nil _ _, by simp, .inl rfl⟩

theorem isWhole_toDigits (n : Nat) : IsWhole (Nat.toDigits 10 n) where
  ne_nil := Nat.toDigits_ne_nil
  digits := fun _ => isDigit_of_mem_toDigits
  leading := by
    by_cases hzero : n = 0
    · exact .inl (by rw [hzero]; rfl)
    · exact .inr (head?_toDigits_ne_zero hzero)

structure Pointed (whole fraction : List Char) (v : ℚ) : Prop where
  isWhole : IsWhole whole
  fraction_ne_nil : fraction ≠ []
  fraction_digits : ∀ c ∈ fraction, c.isDigit = true
  value : v = ofDigits (whole ++ fraction) * 10 ^ (-(fraction.length : Int))

theorem ofDigits_eq (cs : List Char) : ofDigits cs = Nat.ofDigitChars 10 cs 0 := rfl

variable {d : Decimal} {v : ℚ} {whole fraction : List Char}

theorem pointed_of_whole (hd : d.digits ≠ 0) {k : Nat} (hk : d.exponent = k) :
    Pointed (digitText d.digits ++ List.replicate k '0') ['0'] d.value where
  isWhole := by
    refine ⟨List.append_ne_nil_of_left_ne_nil Nat.toDigits_ne_nil _, ?_, .inr ?_⟩
    · rw [List.forall_mem_append]
      refine ⟨fun _ => isDigit_of_mem_toDigits, fun c hc => ?_⟩
      rw [List.eq_of_mem_replicate hc]
      rfl
    · rw [digitText, List.head?_append_of_ne_nil _ Nat.toDigits_ne_nil]
      exact head?_toDigits_ne_zero hd
  fraction_ne_nil := List.cons_ne_nil _ _
  fraction_digits := by simp
  value := by
    have hzeros : List.replicate k '0' ++ ['0'] = List.replicate (k + 1) '0' :=
      List.replicate_succ'.symm
    rw [ofDigits_eq, List.append_assoc, hzeros, Nat.ofDigitChars_append,
      Nat.ofDigitChars_replicate_zero, digitText, Nat.ofDigitChars_ten_toDigits, Decimal.value, hk]
    push_cast
    simp only [List.length_singleton, zpow_natCast, Nat.cast_one, pow_succ]
    field_simp

theorem pointed_of_split (hd : d.digits ≠ 0) {k : Nat} (hk : d.exponent = -k) (hpos : k ≠ 0)
    (hlt : k < (digitText d.digits).length) :
    Pointed ((digitText d.digits).take ((digitText d.digits).length - k))
      ((digitText d.digits).drop ((digitText d.digits).length - k)) d.value where
  isWhole := by
    refine ⟨List.ne_nil_of_length_pos (by rw [List.length_take]; omega),
      fun _ hc => isDigit_of_mem_toDigits (List.mem_of_mem_take hc), .inr ?_⟩
    rw [List.head?_take, if_neg (by omega)]
    exact head?_toDigits_ne_zero hd
  fraction_ne_nil := List.ne_nil_of_length_pos (by rw [List.length_drop]; omega)
  fraction_digits := fun _ hc => isDigit_of_mem_toDigits (List.mem_of_mem_drop hc)
  value := by
    have hlength : ((digitText d.digits).drop ((digitText d.digits).length - k)).length = k := by
      rw [List.length_drop]
      omega
    rw [List.take_append_drop, hlength, ofDigits_eq, digitText, Nat.ofDigitChars_ten_toDigits,
      Decimal.value, hk]

theorem pointed_of_fraction {k : Nat} (hk : d.exponent = -k)
    (hle : (digitText d.digits).length ≤ k) :
    Pointed ['0'] (List.replicate (k - (digitText d.digits).length) '0' ++ digitText d.digits)
      d.value where
  isWhole := isWhole_zero
  fraction_ne_nil := List.append_ne_nil_of_right_ne_nil _ Nat.toDigits_ne_nil
  fraction_digits := by
    rw [List.forall_mem_append]
    refine ⟨fun c hc => ?_, fun _ => isDigit_of_mem_toDigits⟩
    rw [List.eq_of_mem_replicate hc]
    rfl
  value := by
    have hlength : (List.replicate (k - (digitText d.digits).length) '0' ++
        digitText d.digits).length = k := by
      rw [List.length_append, List.length_replicate]
      omega
    rw [hlength, ofDigits_eq, List.cons_append, List.nil_append, Nat.ofDigitChars_cons,
      Nat.ofDigitChars_append, Nat.ofDigitChars_replicate_zero]
    simp [digitText, Nat.ofDigitChars_ten_toDigits, Decimal.value, hk]

theorem exists_pointed_text {layout : Layout} (hending : layout.wholeEnding = ".0")
    (hd : d.digits ≠ 0)
    (h : layout.positional (d.exponent + ((digitText d.digits).length - 1 : Nat)) = true) :
    ∃ whole fraction, (d.text layout).toList = whole ++ '.' :: fraction ∧
      Pointed whole fraction d.value := by
  rw [Decimal.text, if_pos h, hending, Decimal.positional]
  by_cases hx : 0 ≤ d.exponent
  · obtain ⟨k, hk⟩ := Int.eq_ofNat_of_zero_le hx
    refine ⟨_, _, ?_, pointed_of_whole hd hk⟩
    simp [hk]
  · obtain ⟨k, hk⟩ := Int.eq_ofNat_of_zero_le (Int.neg_nonneg.2 (Int.le_of_not_le hx))
    have hk' : d.exponent = -k := by omega
    have htoNat : (-d.exponent).toNat = k := by omega
    simp only [if_neg hx, htoNat]
    split
    case isTrue hlt =>
      exact ⟨_, _, by simp, pointed_of_split hd hk' (by omega) hlt⟩
    case isFalse hle =>
      exact ⟨_, _, by simp, pointed_of_fraction hk' (Nat.not_lt.1 hle)⟩

theorem Pointed.literal? (h : Pointed whole fraction v) :
    literal? (whole ++ '.' :: fraction) =
      some (ofDigits (whole ++ fraction), -(fraction.length : Int)) := by
  have hpoint : ∀ c ∈ ('.' :: fraction).head?, c.isDigit = false := by simp
  have hfraction : fraction.takeWhile Char.isDigit = fraction :=
    List.takeWhile_eq_self_iff.2 h.fraction_digits
  have hrest : fraction.dropWhile Char.isDigit = [] :=
    List.dropWhile_eq_nil_iff.2 h.fraction_digits
  have hempty : whole.isEmpty = false := List.isEmpty_eq_false_iff.2 h.isWhole.ne_nil
  simp only [Binary.literal?, Text.takeWhile_append_stop h.isWhole.digits hpoint,
    Text.dropWhile_append_stop h.isWhole.digits hpoint, hfraction, hrest, hempty, Bool.false_and,
    Bool.false_eq_true, if_false, exponent?, Option.map_some, zero_sub]

def signText (negative : Bool) : List Char := if negative then ['-'] else []

theorem read_of_pointed {f : Format} {m : Nat} {e : Int} (hm : f.Holds m e)
    (hmin : f.minExponent ≤ 0) (hmax : 0 ≤ f.maxExponent) (h : Pointed whole fraction v)
    (hv : Within f m e v) (negative : Bool) :
    read f (String.ofList (signText negative ++ (whole ++ '.' :: fraction))) =
      .ok (.finite negative m e) := by
  have hvalue : ofDecimal f negative (ofDigits (whole ++ fraction)) (-(fraction.length : Int)) =
      .finite negative m e :=
    ofDecimal_eq_of_within hm hmin hmax (h.value ▸ hv)
  have hliteral := h.literal?
  obtain ⟨c, cs, hwhole⟩ := List.exists_cons_of_ne_nil h.isWhole.ne_nil
  have hc : c.isDigit = true := h.isWhole.digits c (by rw [hwhole]; exact List.mem_cons_self)
  rw [hwhole] at hliteral hvalue ⊢
  simp only [List.cons_append] at hliteral hvalue ⊢
  have hminus : (c == '-') = false := beq_false_of_ne fun heq => by
    rw [heq] at hc
    cases hc
  have hplus : (c == '+') = false := beq_false_of_ne fun heq => by
    rw [heq] at hc
    cases hc
  cases negative with
  | true => simp [read, signText, hliteral, hvalue]
  | false => simp [read, signText, hliteral, hvalue, hminus, hplus]

inductive IsFinite (f : Format) : Binary → Prop
  | zero (negative : Bool) : IsFinite f (.finite negative 0 0)
  | nonzero {negative : Bool} {m : Nat} {e : Int} (h : f.Holds m e) :
      IsFinite f (.finite negative m e)

def IsNumber (f : Format) : Binary → Prop
  | .finite negative m e => IsFinite f (.finite negative m e)
  | _ => True

theorem pointed_zero : Pointed ['0'] ['0'] 0 where
  isWhole := isWhole_zero
  fraction_ne_nil := List.cons_ne_nil _ _
  fraction_digits := by simp
  value := by
    have hzero : ofDigits (['0'] ++ ['0']) = 0 := rfl
    rw [hzero, Nat.cast_zero, zero_mul]

theorem toList_sign (negative : Bool) :
    (if negative then "-" else "").toList = signText negative := by
  cases negative <;> rfl

theorem toList_toString_int (n : Int) :
    (toString n).toList = signText (decide (n < 0)) ++ Nat.toDigits 10 n.natAbs := by
  cases n with
  | ofNat n =>
      have hsign : decide (Int.ofNat n < 0) = false := by simp
      have htext : toString (Int.ofNat n) = toString n := rfl
      rw [hsign, htext, Nat.toString_eq_ofList_toDigits, String.toList_ofList]
      rfl
  | negSucc n =>
      have hsign : decide (Int.negSucc n < 0) = true := by simp [Int.negSucc_lt_zero]
      have htext : toString (Int.negSucc n) = "-" ++ toString (n + 1) := rfl
      have hdigits : (toString (n + 1)).toList = Nat.toDigits 10 (n + 1) := by
        rw [Nat.toString_eq_ofList_toDigits, String.toList_ofList]
      rw [hsign, htext, String.toList_append, hdigits]
      rfl

theorem digits_shortest_ne_zero {f : Format} {m : Nat} {e : Int} (tie : Tie)
    (hf : Format.double.Widens f) (hm : f.Holds m e) : (shortest tie f m e).digits ≠ 0 := by
  intro hzero
  have hlow := ((within_shortest tie hf hm).bounds hm).1
  rw [Decimal.value, hzero, Nat.cast_zero, zero_mul] at hlow
  have hpos : (0 : ℚ) < 2 ^ (f.minExponent - 1) := by positivity
  linarith

/-- A notation that is always positional and marks whole numbers by a fraction of zero. -/
structure Layout.IsPointed (layout : Layout) : Prop where
  positional : ∀ x, layout.positional x = true
  wholeEnding : layout.wholeEnding = ".0"

/-- A finite number of double precision is written with a point and read as itself. -/
theorem IsFinite.read_text {x : Binary} (h : IsFinite .double x) {layout : Layout}
    (hlayout : layout.IsPointed) : ∃ negative whole fraction v,
      (x.text layout .double).toList = signText negative ++ (whole ++ '.' :: fraction) ∧
        Pointed whole fraction v ∧ read .double (x.text layout .double) = .ok x := by
  cases h with
  | zero negative =>
      refine ⟨negative, ['0'], ['0'], 0, ?_, pointed_zero, ?_⟩
      · simp [text, hlayout.wholeEnding, toList_sign]
      · simp only [text, hlayout.wholeEnding, if_true]
        cases negative <;> decide +kernel
  | @nonzero negative m e hm =>
      have hwithin := within_shortest layout.tie (.refl _) hm
      obtain ⟨whole, fraction, htext, hpointed⟩ := exists_pointed_text hlayout.wholeEnding
        (digits_shortest_ne_zero layout.tie (.refl _) hm) (hlayout.positional _)
      have hlist : (text layout .double (.finite negative m e)).toList =
          signText negative ++ (whole ++ '.' :: fraction) := by
        rw [text, if_neg hm.ne_zero, String.toList_append, toList_sign, htext]
      refine ⟨negative, whole, fraction, _, hlist, hpointed, ?_⟩
      have hread := read_of_pointed hm (by decide) (by decide) hpointed hwithin negative
      rwa [← hlist, String.ofList_toList] at hread

end Binary

end TracerSettings
