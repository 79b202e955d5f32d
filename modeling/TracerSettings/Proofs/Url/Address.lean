import Mathlib.Algebra.Group.Nat.Defs
import Mathlib.Data.List.Induction
import Mathlib.Data.List.TakeWhile
import Mathlib.Data.Option.Basic
import TracerSettings.Proofs.MapM
import TracerSettings.Proofs.Number.Integer
import TracerSettings.Proofs.Text.Character
import TracerSettings.Proofs.Text.Cut
import TracerSettings.Url.Address

namespace TracerSettings

namespace Text

theorem isHex_digitChar {d : Nat} (h : d < 16) :
    isHex d.digitChar = true ∧ hexValue d.digitChar = d := by
  have hall : ∀ d < 16, isHex d.digitChar = true ∧ hexValue d.digitChar = d := by decide
  exact hall d h

theorem isHex_of_mem_toDigits {n : Nat} {c : Char} (h : c ∈ Nat.toDigits 16 n) :
    isHex c = true := by
  induction n using Nat.strongRecOn with
  | ind n ih =>
      rw [Nat.toDigits_eq_if (by decide)] at h
      split at h
      · rw [List.mem_singleton.1 h]
        exact (isHex_digitChar ‹_›).1
      · rcases List.mem_append.1 h with h | h
        · exact ih (n / 16) (Nat.div_lt_self (by omega) (by decide)) h
        · rw [List.mem_singleton.1 h]
          exact (isHex_digitChar (Nat.mod_lt _ (by decide))).1

theorem ofHex_toDigits (n : Nat) : ofHex (Nat.toDigits 16 n) = n := by
  induction n using Nat.strongRecOn with
  | ind n ih =>
      rw [Nat.toDigits_eq_if (by decide)]
      split
      · exact (Nat.zero_add _).trans (isHex_digitChar ‹_›).2
      · have hfront : ofHex (Nat.toDigits 16 (n / 16)) = n / 16 :=
          ih (n / 16) (Nat.div_lt_self (by omega) (by decide))
        rw [ofHex] at hfront
        rw [ofHex, List.foldl_append, hfront, List.foldl_cons, List.foldl_nil,
          (isHex_digitChar (Nat.mod_lt _ (by decide))).2]
        omega

theorem isHex_iff {c : Char} :
    isHex c = true ↔ (48 ≤ c.toNat ∧ c.toNat ≤ 57) ∨ (97 ≤ c.toNat ∧ c.toNat ≤ 102) ∨
      (65 ≤ c.toNat ∧ c.toNat ≤ 70) := by
  simp only [isHex, Bool.or_eq_true, Bool.and_eq_true, decide_eq_true_eq, Char.le_def,
    UInt32.le_iff_toNat_le, isDigit_iff, or_assoc]
  exact Iff.rfl

theorem hexValue_lt {c : Char} (h : isHex c = true) : hexValue c < 16 := by
  have hcode := isHex_iff.1 h
  have hzero : '0'.toNat = 48 := rfl
  have hsmall : 'a'.toNat = 97 := rfl
  have hcapital : 'A'.toNat = 65 := rfl
  simp only [hexValue, Bool.and_eq_true, decide_eq_true_eq, Char.le_def, UInt32.le_iff_toNat_le,
    isDigit_iff]
  split
  · omega
  · split
    · omega
    · rename_i hletter
      have hletter' : ¬(97 ≤ c.toNat ∧ c.toNat ≤ 102) := hletter
      omega

theorem mul_add_lt {a b d e : Nat} (h : a < b) (hd : d < e) : e * a + d < e * b :=
  calc e * a + d < e * a + e := Nat.add_lt_add_left hd _
    _ = e * (a + 1) := (Nat.mul_succ e a).symm
    _ ≤ e * b := Nat.mul_le_mul_left e h

theorem foldl_lt {α : Type} {base : Nat} {digit : α → Nat} {ds : List α}
    (h : ∀ d ∈ ds, digit d < base) :
    ds.foldl (fun n d => base * n + digit d) 0 < base ^ ds.length := by
  induction ds using List.reverseRecOn with
  | nil => exact Nat.one_pos
  | append_singleton ds d ih =>
      rw [List.forall_mem_append] at h
      have hlast : digit d < base := h.2 d (List.mem_singleton_self d)
      rw [List.foldl_append, List.foldl_cons, List.foldl_nil, List.length_append,
        List.length_singleton, Nat.pow_succ, Nat.mul_comm _ base]
      exact mul_add_lt (ih h.1) hlast

theorem ofHex_lt {cs : List Char} (h : ∀ c ∈ cs, isHex c = true) : ofHex cs < 16 ^ cs.length :=
  foldl_lt fun c hc => hexValue_lt (h c hc)

end Text

namespace Url

namespace V4

theorem part?_toDigits {n : Nat} (h : n < 256) : part? (Nat.toDigits 10 n) = some n := by
  have hall : ∀ n < 256, part? (Nat.toDigits 10 n) = some n := by decide +kernel
  exact hall n h

def bytes (address : Nat) : List Nat := [3, 2, 1, 0].map fun i => address / Nat.pow 256 i % 256

theorem toList_text (address : Nat) :
    (text address).toList = ['.'].intercalate ((bytes address).map (Nat.toDigits 10)) := by
  rw [text, String.toList_intercalate, bytes, List.map_map, List.map_map]
  simp only [Function.comp_def, Nat.toString_eq_ofList_toDigits, String.toList_ofList]
  rfl

theorem pieces_text (address : Nat) :
    Text.pieces (· == '.') (text address).toList = (bytes address).map (Nat.toDigits 10) := by
  rw [toList_text]
  apply Text.pieces_intercalate (by simp [bytes])
  intro w hw
  obtain ⟨n, -, rfl⟩ := List.mem_map.1 hw
  exact notMem_toDigits rfl n

theorem parts_text (address : Nat) :
    parts (text address).toList = (bytes address).map (Nat.toDigits 10) := by
  have hlast : ((bytes address).map (Nat.toDigits 10)).getLast? =
      some (Nat.toDigits 10 (address / Nat.pow 256 0 % 256)) := rfl
  rw [parts, pieces_text, hlast, if_neg]
  exact fun h => Nat.toDigits_ne_nil (Option.some.inj h)

theorem lt_of_mem_bytes {address n : Nat} (h : n ∈ bytes address) : n < 256 := by
  obtain ⟨i, -, rfl⟩ := List.mem_map.1 h
  exact Nat.mod_lt _ (by decide)

theorem read?_text {address : Nat} (h : address < 2 ^ 32) :
    read? (text address).toList = some address := by
  have hparts : ((bytes address).map (Nat.toDigits 10)).mapM part? = some (bytes address) :=
    mapM_map_eq_some fun n hn => part?_toDigits (lt_of_mem_bytes hn)
  have hbyte (n : Nat) : n % 256 < 256 := Nat.mod_lt n (by decide)
  rw [read?, parts_text, hparts]
  simp only [bytes, List.map_cons, List.map_nil, Option.bind_eq_bind, Option.bind_some,
    List.getLast?_cons_cons, List.getLast?_singleton, List.dropLast_cons_cons,
    List.dropLast_singleton, List.length_cons, List.length_nil, List.all_cons, List.all_nil,
    List.foldl_cons, List.foldl_nil, hbyte, decide_true, Bool.and_true]
  have hvalue : 256 * (256 * (256 * (256 * 0 + address / 16777216 % 256) + address / 65536 % 256) +
      address / 256 % 256) + address / 1 % 256 = address := by omega
  exact congrArg some hvalue

theorem endsInNumber_text (address : Nat) : endsInNumber (text address).toList = true := by
  have hlast : ((bytes address).map (Nat.toDigits 10)).getLast? =
      some (Nat.toDigits 10 (address / Nat.pow 256 0 % 256)) := rfl
  rw [endsInNumber, parts_text, hlast]
  simp only [part?_toDigits (Nat.mod_lt _ (by decide)), Option.isSome_some, Bool.or_true]

theorem lt_of_read? {cs : List Char} {address : Nat} (h : read? cs = some address) :
    address < 2 ^ 32 := by
  simp only [read?, Option.bind_eq_bind, Option.bind_eq_some_iff, Option.pure_def,
    Option.some.injEq] at h
  obtain ⟨numbers, -, last, -, ⟨⟩, hguard, rfl⟩ := h
  generalize numbers.dropLast = others at hguard ⊢
  simp only [guard, Bool.and_eq_true, decide_eq_true_eq, List.all_eq_true] at hguard
  split at hguard
  · rename_i hfits
    obtain ⟨⟨hlength, hothers⟩, hlast⟩ := hfits
    have hfront : others.foldl (fun n part => 256 * n + part) 0 < 256 ^ others.length :=
      Text.foldl_lt hothers
    calc Nat.pow 256 (4 - others.length) * others.foldl (fun n part => 256 * n + part) 0 + last
        < 256 ^ (4 - others.length) * 256 ^ others.length := Text.mul_add_lt hfront hlast
      _ = 256 ^ (4 - others.length + others.length) := (Nat.pow_add 256 _ _).symm
      _ = 256 ^ 4 := by rw [Nat.sub_add_cancel (Nat.le_of_lt hlength)]
      _ = 2 ^ 32 := by decide
  · cases hguard

end V4

namespace V6

theorem piece?_toDigits {n : Nat} (h : n < 65536) : piece? (Nat.toDigits 16 n) = some n := by
  have hne : (Nat.toDigits 16 n).isEmpty = false :=
    List.isEmpty_eq_false_iff.2 Nat.toDigits_ne_nil
  have hlength : (Nat.toDigits 16 n).length ≤ 4 :=
    (Nat.length_toDigits_le_iff (by decide) (by decide)).2 h
  have hhex : (Nat.toDigits 16 n).all Text.isHex = true :=
    List.all_eq_true.2 fun _ => Text.isHex_of_mem_toDigits
  rw [piece?, hne, hhex, decide_eq_true hlength, Text.ofHex_toDigits]
  rfl

theorem piece?_eq_some {cs : List Char} {n : Nat} (h : piece? cs = some n) :
    (∀ c ∈ cs, Text.isHex c = true) ∧ n < 65536 := by
  simp only [piece?, Option.ite_none_right_eq_some, Bool.and_eq_true, decide_eq_true_eq,
    List.all_eq_true, Option.some.injEq] at h
  obtain ⟨⟨⟨-, hlength⟩, hhex⟩, rfl⟩ := h
  refine ⟨hhex, Nat.lt_of_lt_of_le (Text.ofHex_lt hhex) ?_⟩
  exact Nat.pow_le_pow_right (by decide) hlength

theorem byte?_eq_some {cs : List Char} {n : Nat} (h : byte? cs = some n) :
    (∀ c ∈ cs, c.isDigit = true) ∧ n < 256 := by
  simp only [byte?, Option.ite_none_right_eq_some, Bool.and_eq_true, decide_eq_true_eq,
    List.all_eq_true, Option.some.injEq] at h
  obtain ⟨⟨⟨⟨-, hdigits⟩, -⟩, hlt⟩, rfl⟩ := h
  exact ⟨hdigits, hlt⟩

def IsPlain (c : Char) : Prop := Text.isHex c = true ∨ c = ':' ∨ c = '.'

theorem isPlain_of_pieces {sep : Char} {cs : List Char} (hsep : IsPlain sep)
    (h : ∀ w ∈ Text.pieces (· == sep) cs, ∀ c ∈ w, IsPlain c) : ∀ c ∈ cs, IsPlain c := by
  intro c hc
  rcases Text.exists_mem_pieces (p := (· == sep)) hc with heq | ⟨w, hw, hcw⟩
  · exact beq_iff_eq.1 heq ▸ hsep
  · exact h w hw c hcw

theorem dotted?_eq_some {cs : List Char} {ps : List Nat} (h : dotted? cs = some ps) :
    (∀ c ∈ cs, IsPlain c) ∧ ∀ p ∈ ps, p < 65536 := by
  simp only [dotted?, Option.bind_eq_bind, Option.bind_eq_some_iff] at h
  obtain ⟨bytes, hbytes, h⟩ := h
  have hlt : ∀ n ∈ bytes, n < 256 := by
    intro n hn
    obtain ⟨w, -, hw⟩ := exists_of_mem_mapM hbytes hn
    exact (byte?_eq_some hw).2
  constructor
  · apply isPlain_of_pieces (.inr (.inr rfl))
    intro w hw c hc
    obtain ⟨n, hn⟩ := isSome_of_mem_mapM hbytes hw
    have hdigit := (byte?_eq_some hn).1 c hc
    exact .inl (by rw [Text.isHex, hdigit]; rfl)
  · split at h
    · cases h
      simp only [List.forall_mem_cons] at hlt
      simp only [List.forall_mem_cons]
      exact ⟨by omega, by omega, by simp⟩
    · cases h

theorem pieces?_eq_some {isEnd : Bool} {cs : List Char} {ps : List Nat}
    (h : pieces? isEnd cs = some ps) : (∀ c ∈ cs, IsPlain c) ∧ ∀ p ∈ ps, p < 65536 := by
  have hpiece {w : List Char} {n : Nat} (hw : piece? w = some n) : ∀ c ∈ w, IsPlain c :=
    fun c hc => .inl ((piece?_eq_some hw).1 c hc)
  rw [pieces?] at h
  split at h
  · cases h
    rename_i hnil
    rw [List.isEmpty_iff.1 hnil]
    simp
  · simp only [Option.bind_eq_bind, Option.bind_eq_some_iff] at h
    obtain ⟨last, hlast, front, hfront, h⟩ := h
    have hfrontLt : ∀ n ∈ front, n < 65536 := by
      intro n hn
      obtain ⟨w, -, hw⟩ := exists_of_mem_mapM hfront hn
      exact (piece?_eq_some hw).2
    -- The last group is a piece or dotted; the others are pieces.
    have hgroups (hplain : ∀ c ∈ last, IsPlain c) : ∀ c ∈ cs, IsPlain c := by
      apply isPlain_of_pieces (.inr (.inl rfl))
      rw [← List.dropLast_concat_getLast (Text.pieces_ne_nil _ cs), List.forall_mem_append,
        List.forall_mem_singleton, List.getLast_of_getLast?_eq_some hlast]
      refine ⟨fun w hw => ?_, hplain⟩
      obtain ⟨n, hn⟩ := isSome_of_mem_mapM hfront hw
      exact hpiece hn
    split at h
    · rename_i n hn
      cases h
      refine ⟨hgroups (hpiece hn), ?_⟩
      rw [List.forall_mem_append, List.forall_mem_singleton]
      exact ⟨hfrontLt, (piece?_eq_some hn).2⟩
    · split at h
      · simp only [Option.bind_eq_some_iff, Option.pure_def, Option.some.injEq] at h
        obtain ⟨tail, htail, rfl⟩ := h
        obtain ⟨hplain, hlt⟩ := dotted?_eq_some htail
        exact ⟨hgroups hplain, List.forall_mem_append.2 ⟨hfrontLt, hlt⟩⟩
      · cases h

theorem cutGap_eq_some {cs before after : List Char} (h : cutGap cs = some (before, after)) :
    cs = before ++ ':' :: ':' :: after := by
  induction cs generalizing before with
  | nil => cases h
  | cons c cs ih =>
      unfold cutGap at h
      split at h
      · rename_i heq
        cases h
        exact heq
      · rename_i heq
        cases heq
        simp only [Option.map_eq_some_iff, Prod.mk.injEq, Prod.exists] at h
        obtain ⟨before', after', hcut, rfl, rfl⟩ := h
        rw [ih hcut, List.cons_append]
      · cases h

theorem read?_eq_some {cs : List Char} {ps : List Nat} (h : read? cs = some ps) :
    (∀ c ∈ cs, IsPlain c) ∧ ps.length = 8 ∧ ∀ p ∈ ps, p < 65536 := by
  simp only [read?, Option.bind_eq_bind] at h
  split at h
  · simp only [Option.bind_eq_some_iff, Option.ite_none_right_eq_some, Option.pure_def,
      Option.some.injEq] at h
    obtain ⟨ps', hps, hlength, rfl⟩ := h
    exact ⟨(pieces?_eq_some hps).1, hlength, (pieces?_eq_some hps).2⟩
  · rename_i before after hcut
    simp only [Option.bind_eq_some_iff, Option.ite_none_right_eq_some, Option.pure_def,
      Option.some.injEq] at h
    obtain ⟨front, hfront, back, hback, hlt, rfl⟩ := h
    obtain ⟨hfrontPlain, hfrontLt⟩ := pieces?_eq_some hfront
    obtain ⟨hbackPlain, hbackLt⟩ := pieces?_eq_some hback
    refine ⟨?_, by simp only [List.length_append, List.length_replicate]; omega, ?_⟩
    · rw [cutGap_eq_some hcut, List.forall_mem_append, List.forall_mem_cons, List.forall_mem_cons]
      exact ⟨hfrontPlain, .inr (.inl rfl), .inr (.inl rfl), hbackPlain⟩
    · rw [List.forall_mem_append, List.forall_mem_append]
      refine ⟨⟨hfrontLt, fun p hp => ?_⟩, hbackLt⟩
      rw [List.eq_of_mem_replicate hp]
      decide

def pieceChars (ps : List Nat) : List Char := [':'].intercalate (ps.map (Nat.toDigits 16))

theorem toList_pieceTexts (ps : List Nat) : (pieceTexts ps).toList = pieceChars ps := by
  rw [pieceTexts, String.toList_intercalate, List.map_map, pieceChars]
  simp only [Function.comp_def, String.toList_ofList]
  rfl

theorem colon_notMem_toDigits (n : Nat) : ':' ∉ Nat.toDigits 16 n :=
  fun h => absurd (Text.isHex_of_mem_toDigits h) (by decide)

theorem pieceChars_cons (p : Nat) (ps : List Nat) :
    pieceChars (p :: ps) =
      Nat.toDigits 16 p ++ if ps.isEmpty then [] else ':' :: pieceChars ps := by
  cases ps with
  | nil => simp [pieceChars]
  | cons q ps => simp [pieceChars, List.intercalate_cons_cons]

theorem pieces_pieceChars {ps : List Nat} (hne : ps ≠ []) :
    Text.pieces (· == ':') (pieceChars ps) = ps.map (Nat.toDigits 16) := by
  apply Text.pieces_intercalate (by simpa using hne)
  intro w hw
  obtain ⟨n, -, rfl⟩ := List.mem_map.1 hw
  exact colon_notMem_toDigits n

theorem pieces?_pieceChars {ps : List Nat} (h : ∀ p ∈ ps, p < 65536) (isEnd : Bool) :
    pieces? isEnd (pieceChars ps) = some ps := by
  rcases List.eq_nil_or_concat ps with rfl | ⟨front, last, rfl⟩
  · rfl
  · rw [List.concat_eq_append] at h ⊢
    rw [List.forall_mem_append, List.forall_mem_singleton] at h
    have hne : (pieceChars (front ++ [last])).isEmpty = false := by
      cases front <;> simp [pieceChars_cons]
    have hfront : (front.map (Nat.toDigits 16)).mapM piece? = some front :=
      mapM_map_eq_some fun p hp => piece?_toDigits (h.1 p hp)
    rw [pieces?, hne, pieces_pieceChars (by simp), List.map_append, List.map_singleton]
    simp only [Bool.false_eq_true, if_false, List.getLast?_concat, List.dropLast_concat, hfront,
      Option.bind_eq_bind, Option.bind_some, piece?_toDigits h.2, Option.pure_def]

theorem cutGap_cons {c : Char} {cs : List Char} (h : ∀ rest, c :: cs ≠ ':' :: ':' :: rest) :
    cutGap (c :: cs) = (cutGap cs).map fun (before, after) => (c :: before, after) := by
  rw [cutGap.eq_def]
  split
  · rename_i rest heq
    exact absurd heq (h rest)
  · rename_i heq
    cases heq
    rfl
  · rename_i heq
    cases heq

theorem cutGap_append {w : List Char} (hw : ':' ∉ w) (cs : List Char) :
    cutGap (w ++ cs) = (cutGap cs).map fun (before, after) => (w ++ before, after) := by
  induction w with
  | nil => simp
  | cons c w ih =>
      rw [List.mem_cons, not_or] at hw
      have hcolon (rest : List Char) : c :: (w ++ cs) ≠ ':' :: ':' :: rest :=
        fun heq => hw.1 (List.cons.inj heq).1.symm
      rw [List.cons_append, cutGap_cons hcolon, ih hw.2, Option.map_map]
      rfl

theorem cutGap_pieceChars_append (ps : List Nat) (cs : List Char) :
    cutGap (pieceChars ps ++ cs) =
      (cutGap cs).map fun (before, after) => (pieceChars ps ++ before, after) := by
  induction ps with
  | nil => simp [pieceChars]
  | cons p ps ih =>
      rw [pieceChars_cons]
      cases ps with
      | nil => simp [cutGap_append (colon_notMem_toDigits p)]
      | cons q ps =>
          have hcolon (rest : List Char) : ':' :: (pieceChars (q :: ps) ++ cs) ≠ ':' :: ':' :: rest := by
            intro heq
            obtain ⟨d, ds, hds⟩ := List.exists_cons_of_ne_nil (Nat.toDigits_ne_nil (n := q) (b := 16))
            rw [pieceChars_cons, hds] at heq
            have hd : d = ':' := (List.cons.inj (List.cons.inj heq).2).1
            exact colon_notMem_toDigits q (hds ▸ hd ▸ List.mem_cons_self)
          rw [List.isEmpty_cons, if_neg Bool.false_ne_true, List.append_assoc,
            cutGap_append (colon_notMem_toDigits p), List.cons_append, cutGap_cons hcolon, ih,
            Option.map_map, Option.map_map]
          simp only [Function.comp_def, List.append_assoc, List.cons_append]

theorem foldl_longer_mem (runs : List (Nat × Nat)) (best : Nat × Nat) :
    runs.foldl (fun best run => if best.2 < run.2 then run else best) best ∈ best :: runs := by
  induction runs generalizing best with
  | nil => exact List.mem_singleton_self best
  | cons run runs ih =>
      rw [List.foldl_cons]
      have h := ih (if best.2 < run.2 then run else best)
      rcases List.mem_cons.1 h with h | h
      · rw [h]
        split <;> simp
      · exact List.mem_cons_of_mem best (List.mem_cons_of_mem run h)

theorem longestGap_zeros {ps : List Nat} {start length : Nat}
    (h : longestGap ps = (start, length)) :
    ps = ps.take start ++ (List.replicate length 0 ++ ps.drop (start + length)) := by
  have hmem := foldl_longer_mem
    ((List.range ps.length).map fun i => (i, ((ps.drop i).takeWhile (· == 0)).length)) (0, 0)
  rw [longestGap] at h
  rw [h] at hmem
  rcases List.mem_cons.1 hmem with heq | hmem
  · cases heq
    simp
  · obtain ⟨i, -, heq⟩ := List.mem_map.1 hmem
    cases heq
    have hzeros : (ps.drop start).takeWhile (· == 0) =
        List.replicate ((ps.drop start).takeWhile (· == 0)).length 0 := by
      rw [List.eq_replicate_iff]
      refine ⟨rfl, fun n hn => ?_⟩
      have hzero : (n == 0) = true := List.mem_takeWhile_imp (p := (· == 0)) hn
      exact beq_iff_eq.1 hzero
    have hrest : ps.drop (start + ((ps.drop start).takeWhile (· == 0)).length) =
        (ps.drop start).dropWhile (· == 0) := by
      rw [← List.drop_drop]
      calc (ps.drop start).drop ((ps.drop start).takeWhile (· == 0)).length
          = ((ps.drop start).takeWhile (· == 0) ++ (ps.drop start).dropWhile (· == 0)).drop
              ((ps.drop start).takeWhile (· == 0)).length := by
            rw [List.takeWhile_append_dropWhile]
        _ = (ps.drop start).dropWhile (· == 0) := List.drop_left' rfl
    rw [hrest, ← hzeros, List.takeWhile_append_dropWhile, List.take_append_drop]

theorem read?_text {ps : List Nat} (hlength : ps.length = 8) (h : ∀ p ∈ ps, p < 65536) :
    read? (text ps).toList = some ps := by
  rcases hgap : longestGap ps with ⟨start, length⟩
  have htexts : text ps = if length < 2 then pieceTexts ps
      else pieceTexts (ps.take start) ++ "::" ++ pieceTexts (ps.drop (start + length)) := by
    rw [text, hgap]
  by_cases hshort : length < 2
  · have hnone : cutGap (pieceChars ps) = none := by
      have happend := cutGap_pieceChars_append ps []
      rwa [List.append_nil] at happend
    rw [htexts, if_pos hshort, toList_pieceTexts, read?, hnone]
    simp only [pieces?_pieceChars h, Option.bind_eq_bind, Option.bind_some, hlength, if_true,
      Option.pure_def]
  · have hzeros := longestGap_zeros hgap
    have htext : (text ps).toList =
        pieceChars (ps.take start) ++ ':' :: ':' :: pieceChars (ps.drop (start + length)) := by
      rw [htexts, if_neg hshort, String.toList_append, String.toList_append, toList_pieceTexts,
        toList_pieceTexts, List.append_assoc]
      rfl
    have hsum : (ps.take start).length + (length + (ps.drop (start + length)).length) = 8 := by
      rw [← hlength]
      conv_rhs => rw [hzeros]
      simp only [List.length_append, List.length_replicate]
    have hwidth : 8 - (ps.take start).length - (ps.drop (start + length)).length = length := by
      omega
    have hfront (isEnd : Bool) : pieces? isEnd (pieceChars (ps.take start)) = some (ps.take start) :=
      pieces?_pieceChars (fun p hp => h p (List.mem_of_mem_take hp)) isEnd
    have hback (isEnd : Bool) : pieces? isEnd (pieceChars (ps.drop (start + length))) =
        some (ps.drop (start + length)) :=
      pieces?_pieceChars (fun p hp => h p (List.mem_of_mem_drop hp)) isEnd
    have hcut : cutGap (text ps).toList =
        some (pieceChars (ps.take start), pieceChars (ps.drop (start + length))) := by
      rw [htext, cutGap_pieceChars_append, cutGap, Option.map_some]
      simp only [List.append_nil]
    rw [read?, hcut]
    simp only [hfront, hback, Option.bind_eq_bind, Option.bind_some, hwidth, Option.pure_def]
    rw [if_pos (by omega), List.append_assoc, ← hzeros]

end V6

end Url

end TracerSettings
