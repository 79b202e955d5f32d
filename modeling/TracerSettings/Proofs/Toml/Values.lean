import TracerSettings.Proofs.Number.Positional
import TracerSettings.Proofs.Toml.Quoted
import TracerSettings.Toml.Reader

namespace TracerSettings.Toml

namespace Datetime

variable {ds rest : List Char} {c : Char}

theorem mark_of_digits {n a : Nat} {mark : Char} {next : List Char} (hn : n ≠ 0)
    (hds : ∀ d ∈ ds, d.isDigit = true) (hc : c.isDigit = false) (hmark : ds ≠ [] → c ≠ mark)
    (hdigit : mark.isDigit = false) (h : digits n (ds ++ c :: rest) = some (a, next)) :
    Datetime.mark mark next = none := by
  simp only [digits, Option.ite_none_right_eq_some, Bool.and_eq_true, decide_eq_true_eq,
    List.all_eq_true, Option.some.injEq, Prod.mk.injEq] at h
  obtain ⟨⟨hlength, hall⟩, -, rfl⟩ := h
  have hle : n ≤ ds.length := by
    by_contra hlt
    have hmem : c ∈ (ds ++ c :: rest).take n := by
      rw [List.take_append, List.mem_append]
      refine .inr ?_
      obtain ⟨k, hk⟩ : ∃ k, n - ds.length = k + 1 := ⟨n - ds.length - 1, by omega⟩
      rw [hk, List.take_succ_cons]
      exact List.mem_cons_self
    exact absurd (hall c hmem) (by simp [hc])
  rw [List.drop_append_of_le_length hle]
  rcases hdrop : ds.drop n with _ | ⟨d, more⟩
  · have hne : ds ≠ [] := by
      rintro rfl
      exact hn (Nat.le_zero.1 hle)
    simp [Datetime.mark, hmark hne]
  · have hd : d.isDigit = true := hds d (List.mem_of_mem_drop (hdrop ▸ List.mem_cons_self))
    have hne : d ≠ mark := by
      rintro rfl
      simp [hd] at hdigit
    simp [Datetime.mark, hne]

theorem read_eq_none (ds : List Char) (hds : ∀ d ∈ ds, d.isDigit = true) (hc : c.isDigit = false)
    (hmark : ds ≠ [] → c ≠ '-' ∧ c ≠ ':') : read (ds ++ c :: rest) = none := by
  have hdate : readDate (ds ++ c :: rest) = none := by
    rw [readDate, Option.bind_eq_bind, Option.bind_eq_none_iff]
    rintro ⟨year, next⟩ hyear
    have hnone : Datetime.mark '-' next = none :=
      mark_of_digits (by decide) hds hc (fun h => (hmark h).1) (by decide) hyear
    simp [hnone]
  have htime : readTime (ds ++ c :: rest) = none := by
    rw [readTime, Option.bind_eq_bind, Option.bind_eq_none_iff]
    rintro ⟨hour, next⟩ hhour
    have hnone : Datetime.mark ':' next = none :=
      mark_of_digits (by decide) hds hc (fun h => (hmark h).2) (by decide) hhour
    simp [hnone]
  simp [read, hdate, htime]

end Datetime

namespace Scalar

open Binary (IsWhole isWhole_toDigits signText toList_toString_int)

variable {ds rest : List Char} {c : Char} {negative : Bool}

theorem digitsFrom_append {out : List Char} (hds : ∀ d ∈ ds, d.isDigit = true)
    (hc : c.isDigit = false) (hmark : c ≠ '_') :
    digitsFrom Char.isDigit out (ds ++ c :: rest) = (out.reverse ++ ds, c :: rest) := by
  induction ds generalizing out with
  | nil =>
      rw [List.nil_append, digitsFrom]
      · simp [hc]
      · rintro d more rfl
        exact fun _ => hmark rfl
  | cons d ds ih =>
      have hd : d.isDigit = true := hds d List.mem_cons_self
      rw [List.cons_append, digitsFrom]
      · rw [if_pos hd, ih fun d' hd' => hds d' (List.mem_cons_of_mem _ hd')]
        simp
      · rintro d' more rfl
        simp at hd

theorem digits_append (hne : ds ≠ []) (hds : ∀ d ∈ ds, d.isDigit = true) (hc : c.isDigit = false)
    (hmark : c ≠ '_') : digits Char.isDigit (ds ++ c :: rest) = some (ds, c :: rest) := by
  obtain ⟨d, ds, rfl⟩ := List.exists_cons_of_ne_nil hne
  rw [List.forall_mem_cons] at hds
  rw [List.cons_append, digits, if_pos hds.1, digitsFrom_append hds.2 hc hmark]
  rfl

theorem sign_signText (hne : ds ≠ []) (hds : ∀ d ∈ ds, d.isDigit = true) :
    sign (signText negative ++ ds ++ rest) = (signText negative, ds ++ rest) := by
  cases negative with
  | true => rfl
  | false =>
      obtain ⟨d, ds, rfl⟩ := List.exists_cons_of_ne_nil hne
      have hd := hds d List.mem_cons_self
      have hsigns : d ≠ '+' ∧ d ≠ '-' := by
        constructor <;> (rintro rfl; simp at hd)
      simp only [signText, Bool.false_eq_true, if_false, List.nil_append, List.cons_append]
      rw [sign]
      · simpa using hsigns.1
      · simpa using hsigns.2

theorem whole_append (h : IsWhole ds) (hc : c.isDigit = false) (hmark : c ≠ '_') :
    whole (signText negative ++ ds ++ c :: rest) = some (signText negative ++ ds, c :: rest) := by
  rw [whole, sign_signText h.ne_nil h.digits]
  dsimp only
  rcases h.leading with rfl | hleading
  · rfl
  · split
    case h_1 more heq =>
      obtain ⟨d, ds, rfl⟩ := List.exists_cons_of_ne_nil h.ne_nil
      simp at heq hleading
      exact absurd heq.1 hleading
    case h_2 => simp [digits_append h.ne_nil h.digits hc hmark]

theorem read_number {fuel : Nat} {cs : List Char} (hhead : c ≠ '"' ∧ c ≠ '\'' ∧ c ≠ 't' ∧ c ≠ 'f')
    (hdate : Datetime.read (c :: cs) = none) :
    read fuel (c :: cs) = (real (c :: cs) <|> special (c :: cs) <|> integer (c :: cs)) := by
  obtain ⟨hdouble, hsingle, htrue, hfalse⟩ := hhead
  simp [read, hdouble, hsingle, htrue, hfalse, datetime, hdate]

theorem read_signed {fuel : Nat} (hne : ds ≠ []) (hds : ∀ d ∈ ds, d.isDigit = true)
    (hc : c.isDigit = false) (hmark : c ≠ '-' ∧ c ≠ ':') :
    read fuel (signText negative ++ ds ++ c :: rest) =
      (real (signText negative ++ ds ++ c :: rest) <|>
        special (signText negative ++ ds ++ c :: rest) <|>
          integer (signText negative ++ ds ++ c :: rest)) := by
  cases negative with
  | true =>
      refine read_number (by decide) ?_
      exact Datetime.read_eq_none [] (by simp) (by decide) (by simp)
  | false =>
      have hdate : Datetime.read (ds ++ c :: rest) = none :=
        Datetime.read_eq_none ds hds hc fun _ => hmark
      obtain ⟨d, ds, rfl⟩ := List.exists_cons_of_ne_nil hne
      have hd := hds d List.mem_cons_self
      refine read_number ?_ hdate
      refine ⟨?_, ?_, ?_, ?_⟩
      all_goals
        rintro rfl
        simp at hd

theorem exponent_newline : exponent ('\n' :: rest) = none := rfl

theorem realOf_of_isReal {x : Binary} {literal : List Char}
    (h : Binary.read .double (String.ofList literal) = .ok x) (hx : Binary.IsFinite .double x) :
    realOf literal = some (.real x) := by
  unfold realOf
  rw [h]
  cases hx <;> rfl

theorem read_finite {fuel : Nat} {x : Binary} (hx : Binary.IsFinite .double x) :
    read fuel ((Printer.value (.real x)).toList ++ '\n' :: rest) =
      some (.real x, '\n' :: rest) := by
  have hlayout : Printer.realLayout.IsPointed := ⟨fun _ => rfl, rfl⟩
  obtain ⟨negative, w, f, v, htext, hpointed, hread⟩ := hx.read_text hlayout
  have hfraction : fraction ('.' :: (f ++ '\n' :: rest)) = some ('.' :: f, '\n' :: rest) := by
    simp [fraction, digits_append hpointed.fraction_ne_nil hpointed.fraction_digits]
  have hvalue : realOf (signText negative ++ w ++ ('.' :: f) ++ []) = some (.real x) := by
    refine realOf_of_isReal ?_ hx
    rw [List.append_nil, List.append_assoc, ← htext, String.ofList_toList, hread]
  have hwhole : whole (signText negative ++ w ++ '.' :: (f ++ '\n' :: rest)) =
      some (signText negative ++ w, '.' :: (f ++ '\n' :: rest)) :=
    whole_append hpointed.isWhole (by decide) (by decide)
  have hreal : real (signText negative ++ w ++ '.' :: (f ++ '\n' :: rest)) =
      some (.real x, '\n' :: rest) := by
    rw [real, hwhole]
    simp only [Option.bind_eq_bind, Option.bind_some, hfraction, exponent_newline, Option.getD_none,
      hvalue]
    rfl
  have hlist : (Printer.value (.real x)).toList ++ '\n' :: rest =
      signText negative ++ w ++ '.' :: (f ++ '\n' :: rest) := by
    rw [Printer.value, htext]
    simp
  rw [hlist, read_signed hpointed.isWhole.ne_nil hpointed.isWhole.digits (by decide) (by decide), hreal]
  rfl

theorem read_real {fuel : Nat} {x : Binary} (hx : Binary.IsNumber .double x) :
    read fuel ((Printer.value (.real x)).toList ++ '\n' :: rest) =
      some (.real x, '\n' :: rest) := by
  cases x with
  | nan => rfl
  | infinite negative =>
      cases negative with
      | true => rfl
      | false => rfl
  | finite => exact read_finite hx

theorem written_toString (n : Int) : IntegerRange.int64.Written (toString n).toList n := by
  have hnumeral : IsNumeral (Nat.toDigits 10 n.natAbs) n.natAbs :=
    ⟨Nat.toDigits_ne_nil, fun _ => isDigit_of_mem_toDigits, Nat.ofDigitChars_ten_toDigits⟩
  rw [toList_toString_int]
  by_cases hn : n < 0
  · have habs : n = -(n.natAbs : Int) := by omega
    rw [decide_eq_true hn]
    conv => rhs; rw [habs]
    exact .minus hnumeral (by decide)
  · have habs : n = n.natAbs := by omega
    rw [decide_eq_false hn]
    conv => rhs; rw [habs]
    exact .digits hnumeral

theorem word_of_digits {w : String} {v : Value} (hne : ds ≠ []) (hds : ∀ d ∈ ds, d.isDigit = true)
    (hw : ∃ c cs, w.toList = c :: cs ∧ c.isDigit = false) : word w v (ds ++ rest) = none := by
  obtain ⟨d, ds, rfl⟩ := List.exists_cons_of_ne_nil hne
  obtain ⟨c, cs, hw, hc⟩ := hw
  have hdiff : c ≠ d := by
    rintro rfl
    simp [hds c List.mem_cons_self] at hc
  simp [word, hw, List.isPrefixOf, hdiff]

theorem ne_radix (hds : ∀ d ∈ ds, d.isDigit = true) (hc : c.isDigit = false) (hline : c ≠ '\n')
    (more : List Char) : signText negative ++ ds ++ '\n' :: rest ≠ '0' :: c :: more := by
  intro heq
  cases negative with
  | true => simp [signText] at heq
  | false =>
      rcases ds with _ | ⟨d, _ | ⟨d', ds⟩⟩
      · simp [signText] at heq
      · simp [signText] at heq
        exact hline heq.2.1.symm
      · simp [signText] at heq
        rw [← heq.2.1, hds d' (by simp)] at hc
        cases hc

theorem read_integer {fuel : Nat} {n : Int} (h : IntegerRange.int64.contains n = true) :
    read fuel ((Printer.value (.integer n)).toList ++ '\n' :: rest) =
      some (.integer n, '\n' :: rest) := by
  have hread : IntegerRange.int64.read (toString n) = .ok n := by
    rw [IntegerRange.read_eq_ok_iff (by decide) (by decide)]
    exact ⟨written_toString n, by simpa [IntegerRange.contains] using h⟩
  have hdigits := (isWhole_toDigits n.natAbs).digits
  have hne := (isWhole_toDigits n.natAbs).ne_nil
  have hwhole : whole (signText (decide (n < 0)) ++ Nat.toDigits 10 n.natAbs ++ '\n' :: rest) =
      some (signText (decide (n < 0)) ++ Nat.toDigits 10 n.natAbs, '\n' :: rest) :=
    whole_append (isWhole_toDigits n.natAbs) (by decide) (by decide)
  rw [Printer.value]
  generalize htext : toString n = text at hread
  have hlist : text.toList = signText (decide (n < 0)) ++ Nat.toDigits 10 n.natAbs := by
    rw [← htext, toList_toString_int]
  rw [← hlist] at hwhole
  have hreal : real (text.toList ++ '\n' :: rest) = none := by
    rw [real, hwhole]
    rfl
  have hspecial : special (text.toList ++ '\n' :: rest) = none := by
    rw [hlist, special, sign_signText hne hdigits]
    dsimp only
    rw [word_of_digits hne hdigits ⟨'i', _, rfl, by decide⟩,
      word_of_digits hne hdigits ⟨'n', _, rfl, by decide⟩]
    rfl
  have hinteger : integer (text.toList ++ '\n' :: rest) = some (.integer n, '\n' :: rest) := by
    have hradix {c : Char} (hc : c.isDigit = false) (hline : c ≠ '\n') (more : List Char) :
        text.toList ++ '\n' :: rest ≠ '0' :: c :: more := by
      rw [hlist]
      exact ne_radix hdigits hc hline more
    rw [integer]
    · rw [hwhole]
      simp [hread]
    · exact hradix (by decide) (by decide)
    · exact hradix (by decide) (by decide)
    · exact hradix (by decide) (by decide)
  rw [hlist] at hreal hspecial hinteger ⊢
  rw [read_signed hne hdigits (by decide) (by decide), hreal, hspecial, hinteger]
  rfl

theorem read_boolean {fuel : Nat} (b : Bool) :
    read fuel ((Printer.value (.boolean b)).toList ++ '\n' :: rest) =
      some (.boolean b, '\n' :: rest) := by
  cases b <;> rfl

theorem read_text {fuel : Nat} {s : String} (hfuel : s.length < fuel)
    (hdouble : rest.head? ≠ some '"') (hsingle : rest.head? ≠ some '\'') :
    read fuel ((Printer.value (.text s)).toList ++ rest) = some (.text s, rest) := by
  rw [← String.length_toList] at hfuel
  have hread := Printer.read_quotedChars hfuel hdouble hsingle
  obtain ⟨q, cs, hquoted, hquote, -⟩ := Printer.quotedChars_eq_cons s.toList
  have htext : (Printer.value (.text s)).toList = q :: cs := by
    rw [Printer.value, Printer.quoted, String.toList_ofList, hquoted]
  rw [hquoted, String.ofList_toList, List.cons_append] at hread
  rw [htext, List.cons_append, read]
  simp [hquote, hread]

theorem read_stray {fuel : Nat} (h : c ∈ ['[', '\x7b', ' ', '\t']) :
    read fuel (c :: rest) = none := by
  have hdigit : c.isDigit = false := by
    simp only [List.mem_cons, List.not_mem_nil, or_false] at h
    rcases h with rfl | rfl | rfl | rfl <;> rfl
  have hdate : Datetime.read (c :: rest) = none :=
    Datetime.read_eq_none [] (by simp) hdigit (by simp)
  simp only [List.mem_cons, List.not_mem_nil, or_false] at h
  rcases h with rfl | rfl | rfl | rfl
  all_goals
    rw [read_number (by decide) hdate]
    rfl

end Scalar

variable {length depth : Nat} {rest : List Char}

theorem value_of_scalar {cs : List Char} {r : Value × List Char}
    (h : Scalar.read length cs = some r) : value length depth cs = some r := by
  cases depth with
  | zero => exact h
  | succ depth =>
      unfold value
      split
      · rw [Scalar.read_stray (by simp)] at h
        cases h
      · rw [Scalar.read_stray (by simp)] at h
        cases h
      · exact h

theorem value_space {c : Char} {cs : List Char} (h : Quoted.isSpace c = true) :
    value length depth (c :: cs) = none := by
  have hc : c = ' ' ∨ c = '\t' := by simpa [Quoted.isSpace] using h
  have hread : Scalar.read length (c :: cs) = none :=
    Scalar.read_stray (by rcases hc with rfl | rfl <;> decide)
  cases depth with
  | zero => exact hread
  | succ depth => rcases hc with rfl | rfl <;> exact hread

def itemLines (items : List String) : List Char :=
  items.flatMap fun s => "    ".toList ++ ((Printer.quoted s).toList ++ [',', '\n'])

theorem quoted_eq_cons (s : String) :
    ∃ q tail, (Printer.quoted s).toList = q :: tail ∧ (q = '"' ∨ q = '\'') ∧
      s.length ≤ tail.length := by
  rw [Printer.quoted, String.toList_ofList]
  exact Printer.quotedChars_eq_cons s.toList

theorem length_lt_quoted (s : String) : s.length < (Printer.quoted s).toList.length := by
  obtain ⟨q, tail, hquoted, -, hlength⟩ := quoted_eq_cons s
  rw [hquoted]
  exact Nat.lt_succ_of_le hlength

theorem skipGap_newline : skipGap false ('\n' :: rest) = skipGap false rest := rfl

theorem skipGap_blank : skipGap false (' ' :: rest) = skipGap false rest := rfl

theorem skipGap_quoted (s : String) :
    skipGap false ((Printer.quoted s).toList ++ rest) =
      some ((Printer.quoted s).toList ++ rest) := by
  obtain ⟨q, tail, hquoted, hquote, -⟩ := quoted_eq_cons s
  rw [hquoted]
  rcases hquote with rfl | rfl <;> rfl

theorem arrayFrom_quoted {fuel : Nat} {s : String} {c : Char} {cs : List Char} {seen : List Value}
    (hlength : s.length < length) (hc : c = ',' ∨ c = ']')
    (hgap : skipGap false cs = some ((Printer.quoted s).toList ++ c :: rest)) :
    arrayFrom (value length depth) (fuel + 1) seen cs =
      if c = ',' then arrayFrom (value length depth) fuel (.text s :: seen) rest
      else some (.text s :: seen, rest) := by
  have hitem : value length depth ((Printer.quoted s).toList ++ c :: rest) =
      some (.text s, c :: rest) :=
    value_of_scalar (Scalar.read_text hlength (by grind) (by grind))
  obtain ⟨q, more, hquoted, hquote, -⟩ := quoted_eq_cons s
  rw [hquoted] at hgap hitem
  have hq : q ≠ ']' := by grind
  rw [arrayFrom, hgap, Option.bind_eq_bind, Option.bind_some]
  split
  case h_1 heq => exact absurd (List.cons.inj heq).1 hq
  case h_2 =>
    rw [hitem]
    rcases hc with rfl | rfl <;> rfl

theorem arrayFrom_itemLines (depth : Nat) {fuel : Nat} {items : List String} (seen : List Value)
    (rest : List Char) (hlength : ∀ s ∈ items, s.length < length) (hfuel : items.length < fuel) :
    arrayFrom (value length depth) fuel seen ('\n' :: (itemLines items ++ ']' :: rest)) =
      some ((items.map Value.text).reverse ++ seen, rest) := by
  induction items generalizing fuel seen with
  | nil =>
      obtain ⟨fuel, rfl⟩ : ∃ n, fuel = n + 1 := ⟨fuel - 1, by grind⟩
      simp [itemLines, arrayFrom, skipGap, Quoted.isSpace]
  | cons s items ih =>
      obtain ⟨fuel, rfl⟩ : ∃ n, fuel = n + 1 := ⟨fuel - 1, by grind⟩
      have htext : itemLines (s :: items) ++ ']' :: rest =
          ' ' :: ' ' :: ' ' :: ' ' :: ((Printer.quoted s).toList ++
            ',' :: '\n' :: (itemLines items ++ ']' :: rest)) := by
        simp [itemLines]
      have hgap : skipGap false ('\n' :: (itemLines (s :: items) ++ ']' :: rest)) =
          some ((Printer.quoted s).toList ++ ',' :: '\n' :: (itemLines items ++ ']' :: rest)) := by
        rw [htext, skipGap_newline, skipGap_blank, skipGap_blank, skipGap_blank, skipGap_blank,
          skipGap_quoted]
      rw [arrayFrom_quoted (hlength s List.mem_cons_self) (.inl rfl) hgap, if_pos rfl,
        ih _ (fun t ht => hlength t (List.mem_cons_of_mem _ ht)) (by grind)]
      simp

/-- What a report writes behind a key: a scalar within the reach of its type, or a list of
strings. -/
inductive Value.Plain : Value → Prop
  | text (s : String) : Plain (.text s)
  | integer {n : Int} (h : IntegerRange.int64.contains n = true) : Plain (.integer n)
  | real {x : Binary} (h : Binary.IsNumber .double x) : Plain (.real x)
  | boolean (b : Bool) : Plain (.boolean b)
  | texts (items : List String) : Plain (.array (items.map .text))

theorem valueItems_texts (items : List String) :
    Printer.valueItems (items.map .text) = items.map Printer.quoted := by
  induction items with
  | nil => rfl
  | cons s items ih => rw [List.map_cons, Printer.valueItems, ih]; rfl

theorem length_le_itemLines (items : List String) :
    items.length ≤ (itemLines items).length ∧
      ∀ s ∈ items, s.length < (itemLines items).length := by
  induction items with
  | nil => simp [itemLines]
  | cons s items ih =>
      have hs := length_lt_quoted s
      have hlength : (itemLines (s :: items)).length =
          6 + (Printer.quoted s).toList.length + (itemLines items).length := by
        simp [itemLines]
        omega
      rw [hlength, List.length_cons, List.forall_mem_cons]
      exact ⟨by omega, by omega, fun t ht => by have := ih.2 t ht; omega⟩

theorem toList_value_texts (items : List String) :
    (Printer.value (.array (items.map .text))).toList =
      match items with
      | [] => "[]".toList
      | [s] => '[' :: (Printer.quoted s).toList ++ [']']
      | items => '[' :: '\n' :: itemLines items ++ [']'] := by
  have hjoin (items : List String) :
      (String.join ((items.map Printer.quoted).map fun s => "    " ++ s ++ ",\n")).toList =
        itemLines items := by
    simp [String.toList_join, List.flatMap_map, itemLines]
  rw [Printer.value, valueItems_texts, List.length_map]
  rcases items with _ | ⟨s, _ | ⟨t, items⟩⟩
  · rfl
  · simp
  · simp only [List.length_cons, String.toList_append]
    rw [hjoin]
    rfl

theorem value_texts {items : List String}
    (hlength : (Printer.value (.array (items.map .text))).toList.length < length) :
    value length (depth + 1) ((Printer.value (.array (items.map .text))).toList ++ rest) =
      some (.array (items.map .text), rest) := by
  rw [toList_value_texts] at hlength ⊢
  rcases items with _ | ⟨s, _ | ⟨t, items⟩⟩
  · obtain ⟨length, rfl⟩ : ∃ n, length = n + 1 := ⟨length - 1, by grind⟩
    rfl
  · obtain ⟨length, rfl⟩ : ∃ n, length = n + 1 := ⟨length - 1, by grind⟩
    have hs := length_lt_quoted s
    simp only [List.length_append, List.length_cons] at hlength
    have hitems : arrayFrom (value (length + 1) depth) (length + 1) []
        ((Printer.quoted s).toList ++ ']' :: rest) = some ([.text s], rest) :=
      arrayFrom_quoted (by omega) (.inr rfl) (skipGap_quoted s)
    simp [value, hitems]
  · have hitems := length_le_itemLines (s :: t :: items)
    simp only [List.length_append, List.length_cons] at hlength hitems
    have hread := arrayFrom_itemLines depth [] rest
      (fun u hu => Nat.lt_trans (hitems.2 u hu) (by omega : _ < length)) (by grind : _ < length)
    simp [value, hread]

theorem Value.Plain.read {v : Value} (h : v.Plain)
    (hlength : (Printer.value v).toList.length < length) :
    value length (depth + 1) ((Printer.value v).toList ++ '\n' :: rest) =
      some (v, '\n' :: rest) := by
  cases h with
  | text s =>
      have hs := length_lt_quoted s
      exact value_of_scalar (Scalar.read_text (Nat.lt_trans hs hlength) (by simp) (by simp))
  | integer h => exact value_of_scalar (Scalar.read_integer h)
  | real h => exact value_of_scalar (Scalar.read_real h)
  | boolean b => exact value_of_scalar (Scalar.read_boolean b)
  | texts items => exact value_texts hlength

end TracerSettings.Toml
