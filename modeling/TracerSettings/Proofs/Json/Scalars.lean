import Mathlib.Algebra.BigOperators.Group.List.Basic
import Mathlib.Tactic.SplitIfs
import TracerSettings.Proofs.Json.Reading
import TracerSettings.Proofs.Number.Canonical
import TracerSettings.Report

namespace TracerSettings.Json.Reader

variable {fuel : Nat} {out cs rest : List Char}

theorem codePoint_hexDigits {n : Nat} (h : n < 0x20) (tail : List Char) :
    codePoint (Text.hexDigits 4 n ++ tail) = some (Char.ofNat n, tail) := by
  have hall : ∀ n < 0x20, (Text.hexDigits 4 n).length = 4 ∧
      (Text.hexDigits 4 n).all Text.isHex = true ∧ Text.ofHex (Text.hexDigits 4 n) = n := by
    decide +kernel
  obtain ⟨hlength, hhex, hvalue⟩ := hall n h
  have hunit : codeUnit (Text.hexDigits 4 n ++ tail) = some (n, tail) := by
    simp [codeUnit, List.take_left' hlength, List.drop_left' hlength, hlength, hhex, hvalue]
  have hsmall : n < 0xD800 := by omega
  simp [codePoint, hunit, hsmall]

theorem stringFrom_escape (c : Char) :
    stringFrom (fuel + 1) out (Json.escape c ++ rest) = stringFrom fuel (c :: out) rest := by
  have hcode {first : Char} {more : List Char}
      (h : escape (first :: more ++ rest) = some (c, rest)) :
      stringFrom (fuel + 1) out ('\\' :: first :: more ++ rest) =
        stringFrom fuel (c :: out) rest := by
    simp only [List.cons_append] at h ⊢
    simp [stringFrom, h]
  rw [Json.escape]
  split_ifs with hquote hslash hline hreturn htab hback hfeed hcontrol
  · exact hcode (by rw [hquote]; rfl)
  · exact hcode (by rw [hslash]; rfl)
  · exact hcode (by rw [hline]; rfl)
  · exact hcode (by rw [hreturn]; rfl)
  · exact hcode (by rw [htab]; rfl)
  · have hc : c = Char.ofNat 8 := Char.toNat_inj.1 hback
    exact hcode (by rw [hc]; rfl)
  · have hc : c = Char.ofNat 12 := Char.toNat_inj.1 hfeed
    exact hcode (by rw [hc]; rfl)
  · refine hcode ?_
    have hread := codePoint_hexDigits hcontrol rest
    rw [Char.ofNat_toNat] at hread
    exact hread
  · rw [List.cons_append, List.nil_append, stringFrom]
    · rw [if_neg hcontrol]
    · exact hquote
    · exact hslash

theorem stringFrom_quoted (hfuel : cs.length < fuel) (out rest : List Char) :
    stringFrom fuel out (cs.flatMap Json.escape ++ '"' :: rest) =
      some (String.ofList (out.reverse ++ cs), rest) := by
  induction cs generalizing fuel out with
  | nil =>
      obtain ⟨fuel, rfl⟩ : ∃ n, fuel = n + 1 := ⟨fuel - 1, by grind⟩
      simp [stringFrom]
  | cons c cs ih =>
      obtain ⟨fuel, rfl⟩ : ∃ n, fuel = n + 1 := ⟨fuel - 1, by grind⟩
      rw [List.flatMap_cons, List.append_assoc, stringFrom_escape,
        ih (Nat.lt_of_succ_lt_succ hfuel)]
      simp

theorem escape_ne_nil (c : Char) : Json.escape c ≠ [] := by
  rw [Json.escape]
  split_ifs <;> simp

theorem toList_quote (s : String) :
    (quote s).toList = '"' :: (s.toList.flatMap Json.escape ++ ['"']) := by
  simp [quote]

theorem length_lt_quote (s : String) : s.length + 1 < (quote s).length := by
  have hlength : s.toList.length ≤ (s.toList.flatMap Json.escape).length := by
    have hsum := List.length_le_sum_of_one_le (s.toList.map fun c => (Json.escape c).length)
      fun n hn => by
        obtain ⟨c, -, rfl⟩ := List.mem_map.1 hn
        exact List.length_pos_of_ne_nil (escape_ne_nil c)
    rwa [List.length_map, ← List.length_flatMap] at hsum
  rw [← String.length_toList, ← String.length_toList, toList_quote, List.length_cons,
    List.length_append, List.length_singleton]
  omega

section Numbers

theorem isNumeric_of_isDigit {c : Char} (h : c.isDigit = true) : isNumeric c = true := by
  simp [isNumeric, h]

theorem isNumeric_of_mem_takeWhile {c : Char} (h : c ∈ cs.takeWhile Char.isDigit) :
    isNumeric c = true :=
  isNumeric_of_isDigit (List.mem_takeWhile_imp h)

theorem isNumeric_of_exponent? {x : Int} (h : Binary.exponent? cs = some x) :
    ∀ c ∈ cs, isNumeric c = true := by
  have hdigits {ds : List Char} (hds : ¬(ds.isEmpty || !ds.all Char.isDigit) = true) :
      ∀ d ∈ ds, isNumeric d = true := by
    intro d hd
    simp only [Bool.or_eq_true, Bool.not_eq_true', not_or, Bool.not_eq_false, List.all_eq_true]
      at hds
    exact isNumeric_of_isDigit (hds.2 d hd)
  unfold Binary.exponent? at h
  split at h
  case h_1 => simp
  case h_2 c cs =>
    split at h
    case isTrue => cases h
    case isFalse hmark =>
      rw [List.forall_mem_cons]
      constructor
      · simp only [Bool.and_eq_true, bne_iff_ne, not_and, not_not] at hmark
        by_cases hc : c = 'e'
        · rw [hc]; rfl
        · rw [hmark hc]; rfl
      · split at h
        rename_i negative ds heq
        split at h
        case isTrue => cases h
        case isFalse hds =>
          split at heq
          case h_1 =>
            cases heq
            exact List.forall_mem_cons.2 ⟨rfl, hdigits hds⟩
          case h_2 =>
            cases heq
            exact List.forall_mem_cons.2 ⟨rfl, hdigits hds⟩
          case h_3 =>
            cases heq
            exact hdigits hds

theorem isNumeric_of_magnitude? {v : ℚ} (h : magnitude? cs = some v) :
    ∀ c ∈ cs, isNumeric c = true := by
  rw [← List.takeWhile_append_dropWhile (p := Char.isDigit) (l := cs), List.forall_mem_append]
  refine ⟨fun _ => isNumeric_of_mem_takeWhile, ?_⟩
  rw [magnitude?] at h
  split at h
  case isTrue => cases h
  case isFalse =>
    split at h
    case h_1 rest heq =>
      dsimp only at h
      split at h
      case isTrue => cases h
      case isFalse =>
        obtain ⟨x, hx, -⟩ := Option.map_eq_some_iff.1 h
        rw [heq, List.forall_mem_cons,
          ← List.takeWhile_append_dropWhile (p := Char.isDigit) (l := rest),
          List.forall_mem_append]
        exact ⟨rfl, fun _ => isNumeric_of_mem_takeWhile, isNumeric_of_exponent? hx⟩
    case h_2 =>
      obtain ⟨x, hx, -⟩ := Option.map_eq_some_iff.1 h
      exact isNumeric_of_exponent? hx

theorem exists_cons_of_magnitude? {v : ℚ} (h : magnitude? cs = some v) :
    ∃ c rest, cs = c :: rest ∧ c.isDigit = true := by
  cases cs with
  | nil => simp [magnitude?] at h
  | cons c cs =>
      refine ⟨c, cs, rfl, ?_⟩
      by_contra hc
      simp [magnitude?, hc] at h

theorem isNumeric_of_number? {v : ℚ} (h : number? cs = some v) : ∀ c ∈ cs, isNumeric c = true := by
  unfold number? at h
  split at h
  case h_1 cs =>
    obtain ⟨w, hw, -⟩ := Option.map_eq_some_iff.1 h
    exact List.forall_mem_cons.2 ⟨rfl, isNumeric_of_magnitude? hw⟩
  case h_2 => exact isNumeric_of_magnitude? h

theorem ne_nil_of_number? {v : ℚ} (h : number? cs = some v) : cs ≠ [] := by
  rintro rfl
  simp [number?, magnitude?] at h

section Notations

open Binary (IsWhole isWhole_toDigits)

variable {whole fraction : List Char} {d : Binary.Decimal} {v : ℚ}

theorem not_refused (h : IsWhole whole) :
    (whole.isEmpty || (whole.head? == some '0' && whole != ['0'])) = false := by
  rw [List.isEmpty_eq_false_iff.2 h.ne_nil, Bool.false_or]
  rcases h.leading with hzero | hhead
  · simp [hzero]
  · rw [beq_false_of_ne hhead, Bool.false_and]

theorem magnitude?_whole (rest : List Char) (h : IsWhole whole)
    (hrest : ∀ c ∈ rest.head?, c.isDigit = false ∧ c ≠ '.') :
    magnitude? (whole ++ rest) = (Binary.exponent? rest).map (scaled whole) := by
  have hstop : ∀ c ∈ rest.head?, c.isDigit = false := fun c hc => (hrest c hc).1
  simp only [magnitude?, Text.takeWhile_append_stop h.digits hstop,
    Text.dropWhile_append_stop h.digits hstop, not_refused h, Bool.false_eq_true, if_false]
  split
  case h_1 => exact absurd rfl (hrest '.' rfl).2
  case h_2 => rfl

theorem magnitude?_pointed (rest : List Char) (h : IsWhole whole) (hne : fraction ≠ [])
    (hdigits : ∀ c ∈ fraction, c.isDigit = true) (hrest : ∀ c ∈ rest.head?, c.isDigit = false) :
    magnitude? (whole ++ '.' :: (fraction ++ rest)) =
      (Binary.exponent? rest).map fun x => scaled (whole ++ fraction) (x - fraction.length) := by
  have hpoint : ∀ c ∈ ('.' :: (fraction ++ rest)).head?, c.isDigit = false := by simp
  simp only [magnitude?, Text.takeWhile_append_stop h.digits hpoint,
    Text.dropWhile_append_stop h.digits hpoint, not_refused h, Bool.false_eq_true, if_false,
    Text.takeWhile_append_stop hdigits hrest, Text.dropWhile_append_stop hdigits hrest,
    List.isEmpty_eq_false_iff.2 hne]

theorem magnitude?_toDigits (n : Nat) : magnitude? (Nat.toDigits 10 n) = some (n : ℚ) := by
  have hread := magnitude?_whole [] (isWhole_toDigits n) (by simp)
  rw [List.append_nil] at hread
  rw [hread, Binary.exponent?, Option.map_some, scaled, Binary.ofDigits_eq,
    Nat.ofDigitChars_ten_toDigits, zpow_zero, mul_one]

theorem magnitude?_of_pointed (h : Binary.Pointed whole fraction v) :
    magnitude? (whole ++ '.' :: fraction) = some v := by
  have hread := magnitude?_pointed [] h.isWhole h.fraction_ne_nil h.fraction_digits (by simp)
  rw [List.append_nil] at hread
  rw [hread, h.value, Binary.exponent?, Option.map_some, scaled, zero_sub]

theorem exponent?_signed (x : Int) :
    Binary.exponent? ('e' :: (if x < 0 then '-' else '+') :: Nat.toDigits 10 x.natAbs) =
      some x := by
  have hdigits : ((Nat.toDigits 10 x.natAbs).isEmpty ||
      !(Nat.toDigits 10 x.natAbs).all Char.isDigit) = false := by
    rw [List.isEmpty_eq_false_iff.2 Nat.toDigits_ne_nil, Bool.false_or, Bool.not_eq_false',
      List.all_eq_true]
    exact fun _ => isDigit_of_mem_toDigits
  have hvalue : Binary.ofDigits (Nat.toDigits 10 x.natAbs) = x.natAbs :=
    Nat.ofDigitChars_ten_toDigits
  split
  case isTrue hx =>
    simp [Binary.exponent?, hdigits, hvalue, abs_of_neg hx]
  case isFalse hx =>
    simp [Binary.exponent?, hdigits, hvalue, abs_of_nonneg (not_lt.1 hx)]

theorem magnitude?_scientific (hd : d.digits ≠ 0) : magnitude? d.scientific = some d.value := by
  have hdigits := isWhole_toDigits d.digits
  have hhead := head?_toDigits_ne_zero hd
  have hvalue : Binary.ofDigits (Nat.toDigits 10 d.digits) = d.digits :=
    Nat.ofDigitChars_ten_toDigits
  rw [Binary.Decimal.scientific, Binary.digitText, Binary.digitText, Binary.Decimal.value]
  generalize Nat.toDigits 10 d.digits = ds at hdigits hhead hvalue ⊢
  generalize hx : d.exponent + (ds.length - 1 : Nat) = x
  have hexponent := exponent?_signed x
  have hmark : ∀ c ∈ ('e' :: (if x < 0 then '-' else '+') :: Nat.toDigits 10 x.natAbs).head?,
      c.isDigit = false ∧ c ≠ '.' := by simp
  generalize 'e' :: (if x < 0 then '-' else '+') :: Nat.toDigits 10 x.natAbs = tail
    at hexponent hmark ⊢
  rcases ds with _ | ⟨c, _ | ⟨c', more⟩⟩
  · exact absurd rfl hdigits.ne_nil
  · have hone := magnitude?_whole tail hdigits hmark
    rw [hexponent, Option.map_some, scaled, hvalue] at hone
    simpa [← hx] using hone
  · have hall := List.forall_mem_cons.1 hdigits.digits
    have hone : IsWhole [c] := ⟨by simp, by simpa using hall.1, .inr hhead⟩
    have hmany := magnitude?_pointed tail hone (List.cons_ne_nil c' more) hall.2
      fun d hd => (hmark d hd).1
    rw [hexponent, Option.map_some, scaled, List.singleton_append, List.singleton_append,
      hvalue] at hmany
    simpa [← hx] using hmany

theorem magnitude?_text {layout : Binary.Layout} (hending : layout.wholeEnding = ".0")
    (hd : d.digits ≠ 0) : magnitude? (d.text layout).toList = some d.value := by
  by_cases h :
      layout.positional (d.exponent + ((Binary.digitText d.digits).length - 1 : Nat)) = true
  · obtain ⟨whole, fraction, htext, hpointed⟩ := Binary.exists_pointed_text hending hd h
    rw [htext, magnitude?_of_pointed hpointed]
  · rw [Binary.Decimal.text, if_neg h, String.toList_ofList, magnitude?_scientific hd]

end Notations

theorem number?_signText {v : ℚ} (h : magnitude? cs = some v) (negative : Bool) :
    number? (Binary.signText negative ++ cs) = some (if negative then -v else v) := by
  cases negative with
  | true => simp [Binary.signText, number?, h]
  | false =>
      obtain ⟨c, cs, rfl, hc⟩ := exists_cons_of_magnitude? h
      have hminus : c ≠ '-' := by
        rintro rfl
        simp at hc
      simp only [Binary.signText, Bool.false_eq_true, if_false, List.nil_append]
      rw [number?, h]
      simpa using hminus

theorem number?_toString (n : Int) : number? (toString n).toList = some (n : ℚ) := by
  rw [Binary.toList_toString_int, number?_signText (magnitude?_toDigits _)]
  have habs : ((n.natAbs : Int) : ℚ) = n.natAbs := Int.cast_natCast _
  simp only [decide_eq_true_eq, ← habs]
  split
  case isTrue hn => rw [← Int.cast_neg, Int.ofNat_natAbs_of_nonpos hn.le, neg_neg]
  case isFalse hn => rw [Int.natAbs_of_nonneg (not_lt.1 hn)]

/-- The value of a finite number is read off its text: that of the shortest decimal. -/
theorem number?_text {f : Format} (hf : Format.double.Widens f) {layout : Binary.Layout}
    (hending : layout.wholeEnding = ".0") {negative : Bool} {m : Nat} {e : Int}
    (hm : f.Holds m e) : number? (Binary.text layout f (.finite negative m e)).toList =
      some (if negative then -(Binary.shortest layout.tie f m e).value
        else (Binary.shortest layout.tie f m e).value) := by
  have hread := magnitude?_text hending (Binary.digits_shortest_ne_zero layout.tie hf hm)
  rw [Binary.text, if_neg hm.ne_zero, String.toList_append, Binary.toList_sign,
    number?_signText hread]

theorem number?_text_zero {f : Format} {layout : Binary.Layout}
    (hending : layout.wholeEnding = ".0") (negative : Bool) :
    number? (Binary.text layout f (.finite negative 0 0)).toList = some 0 := by
  have hzero : magnitude? ['0', '.', '0'] = some 0 := magnitude?_of_pointed Binary.pointed_zero
  have hread := number?_signText hzero negative
  rw [neg_zero, ite_self] at hread
  rw [Binary.text, if_pos rfl, hending, String.toList_append, Binary.toList_sign]
  exact hread

end Numbers

end TracerSettings.Json.Reader
