import TracerSettings.Proofs.Number.Integer
import TracerSettings.Proofs.StatusSet.Runs
import TracerSettings.Proofs.Text.Cut
import TracerSettings.StatusSet

namespace TracerSettings.StatusSet

def IsCode (cs : List Char) (code : Nat) : Prop := IsUnsigned cs code ∧ code < limit

/-- What a token names: a code, or two codes with a dash between them. There is no dash in a code,
so this is the first one of the token. -/
inductive Names : List Char → Nat → Nat → Prop
  | code {cs : List Char} {a : Nat} (h : IsCode cs a) : Names cs a a
  | range {left right : List Char} {a b : Nat} (ha : IsCode left a) (hb : IsCode right b) :
      Names (left ++ '-' :: right) a b

section Tokens

variable {cs token : List Char} {code : Nat}

theorem IsCode.dash_notMem (h : IsCode cs code) : '-' ∉ cs := by
  have hdigits {ds : List Char} (hds : IsNumeral ds code) : '-' ∉ ds := by
    intro hmem
    exact absurd (hds.digits '-' hmem) (by decide)
  rcases h.1 with hcs | ⟨digits, rfl, hcs⟩
  · exact hdigits hcs
  · exact List.not_mem_cons_of_ne_of_not_mem (by decide) (hdigits hcs)

theorem readCode_eq_ok_iff : readCode cs = .ok code ↔ IsCode cs code := by
  have hread {i : Int} : IntegerRange.word16.read (.ofList cs) = .ok i ↔
      ∃ n : Nat, i = n ∧ IsUnsigned cs n ∧ (n : Int) ≤ 65535 := by
    rw [IntegerRange.read_unsigned_eq_ok_iff rfl (by decide), String.toList_ofList]
    rfl
  constructor
  · intro h
    rw [readCode] at h
    split at h
    · cases h
    · rename_i i hi
      obtain ⟨n, rfl, hcs, -⟩ := hread.1 hi
      split at h
      · rename_i hlimit
        obtain rfl := Except.ok.inj h
        exact ⟨hcs, hlimit⟩
      · cases h
  · rintro ⟨hcs, hlimit⟩
    have hbound : code < 600 := hlimit
    have hcode := hread.2 ⟨code, rfl, hcs, by omega⟩
    rw [readCode, hcode]
    exact if_pos hlimit

theorem readRange_eq_ok_iff {r : Nat × Nat} :
    readRange token = .ok r ↔ ∃ a b, Names token a b ∧ r = (min a b, max a b) := by
  constructor
  · intro h
    rw [readRange] at h
    split at h
    · cases ha : readCode token with
      | error e =>
          rw [ha] at h
          cases h
      | ok a =>
          rw [ha] at h
          obtain rfl := Except.ok.inj h
          exact ⟨a, a, .code (readCode_eq_ok_iff.1 ha), by simp⟩
    · rename_i left right hcut
      obtain ⟨-, rfl⟩ := Text.cut_eq_some_iff.1 hcut
      cases ha : readCode left with
      | error e =>
          rw [ha] at h
          cases h
      | ok a =>
          cases hb : readCode right with
          | error e =>
              rw [ha, hb] at h
              cases h
          | ok b =>
              rw [ha, hb] at h
              obtain rfl := Except.ok.inj h
              exact ⟨a, b, .range (readCode_eq_ok_iff.1 ha) (readCode_eq_ok_iff.1 hb), rfl⟩
  · rintro ⟨a, b, h, rfl⟩
    cases h with
    | code h =>
        rw [readRange, Text.cut_of_not_mem h.dash_notMem, readCode_eq_ok_iff.2 h]
        simp [Except.map]
    | range ha hb =>
        simp only [readRange, Text.cut_append ha.dash_notMem, readCode_eq_ok_iff.2 ha,
          readCode_eq_ok_iff.2 hb]
        rfl

def Accepted (token : List Char) : Prop := ∃ a b, Names token a b

def Encloses (token : List Char) (code : Nat) : Prop :=
  ∃ a b, Names token a b ∧ min a b ≤ code ∧ code ≤ max a b

theorem accepted_iff : Accepted token ↔ (readRange token).isOk = true := by
  constructor
  · rintro ⟨a, b, h⟩
    rw [readRange_eq_ok_iff.2 ⟨a, b, h, rfl⟩]
    rfl
  · intro h
    cases hread : readRange token with
    | error e =>
        rw [hread] at h
        cases h
    | ok r =>
        obtain ⟨a, b, hnames, -⟩ := readRange_eq_ok_iff.1 hread
        exact ⟨a, b, hnames⟩

instance (token : List Char) : Decidable (Accepted token) := decidable_of_iff _ accepted_iff.symm

theorem Names.max_lt {a b : Nat} (h : Names token a b) : max a b < limit := by
  cases h with
  | code h => exact Nat.max_lt.2 ⟨h.2, h.2⟩
  | range ha hb => exact Nat.max_lt.2 ⟨ha.2, hb.2⟩

theorem Accepted.exists_encloses (h : Accepted token) : ∃ code, Encloses token code := by
  obtain ⟨a, b, h⟩ := h
  exact ⟨a, a, b, h, Nat.min_le_left a b, Nat.le_max_left a b⟩

theorem Encloses.accepted (h : Encloses token code) : Accepted token := by
  obtain ⟨a, b, h, -⟩ := h
  exact ⟨a, b, h⟩

end Tokens

section Union

variable {tokens tokens' : List (List Char)} {raw : String} {fallback : StatusSet}

theorem contains_addToken (r : Reading StatusSet) (token : List Char) (code : Nat) :
    (addToken r token).value.contains code = true ↔
      r.value.contains code = true ∨ Encloses token code := by
  rw [addToken]
  cases hread : readRange token with
  | error e =>
      have hnot : ¬Encloses token code := by
        intro h
        have hok := accepted_iff.1 h.accepted
        rw [hread] at hok
        cases hok
      exact (or_iff_left hnot).symm
  | ok r =>
      obtain ⟨a, b, hnames, rfl⟩ := readRange_eq_ok_iff.1 hread
      rw [contains_insertRange]
      refine or_congr_right ?_
      constructor
      · rintro ⟨-, hlo, hhi⟩
        exact ⟨a, b, hnames, hlo, hhi⟩
      · rintro ⟨a', b', hnames', hlo, hhi⟩
        -- The bounds of a token are determined by it.
        have hbounds := hread.symm.trans (readRange_eq_ok_iff.2 ⟨a', b', hnames', rfl⟩)
        obtain ⟨hmin, hmax⟩ := Prod.mk.inj (Except.ok.inj hbounds)
        exact ⟨Nat.lt_of_le_of_lt hhi hnames'.max_lt, hmin ▸ hlo, hmax ▸ hhi⟩

theorem contains_foldl_addToken (tokens : List (List Char)) (r : Reading StatusSet) (code : Nat) :
    (tokens.foldl addToken r).value.contains code = true ↔
      r.value.contains code = true ∨ ∃ token ∈ tokens, Encloses token code := by
  induction tokens generalizing r with
  | nil => simp
  | cons token tokens ih =>
      rw [List.foldl_cons, ih, contains_addToken, List.exists_mem_cons_iff, or_assoc]

theorem rejected_foldl_addToken (tokens : List (List Char)) (r : Reading StatusSet) :
    (tokens.foldl addToken r).rejected.map Rejected.token =
      r.rejected.map Rejected.token ++
        (tokens.filter fun token => ¬Accepted token).map String.ofList := by
  induction tokens generalizing r with
  | nil => simp
  | cons token tokens ih =>
      rw [List.foldl_cons, ih]
      cases hread : readRange token with
      | error e =>
          have hnot : ¬Accepted token := by
            rw [accepted_iff, hread]
            exact Bool.false_ne_true
          rw [List.filter_cons_of_pos (by simpa using hnot)]
          simp [addToken, hread]
      | ok bounds =>
          have haccepted : Accepted token := by
            rw [accepted_iff, hread]
            rfl
          rw [List.filter_cons_of_neg (by simpa using haccepted)]
          simp [addToken, hread]

theorem isEmpty_foldl_addToken_iff :
    (tokens.foldl addToken (.clean empty)).value.isEmpty = true ↔
      ∀ token ∈ tokens, ¬Accepted token := by
  have hempty (code : Nat) : (Reading.clean empty).value.contains code = false :=
    contains_empty code
  simp only [isEmpty_iff, Bool.eq_false_iff, ne_eq, contains_foldl_addToken, hempty,
    Bool.false_eq_true, false_or, not_exists, not_and]
  constructor
  · intro h token htoken haccepted
    obtain ⟨code, hcode⟩ := haccepted.exists_encloses
    exact h code token htoken hcode
  · exact fun h code token htoken hcode => h token htoken hcode.accepted

theorem value_read_of_rejected (h : ∀ token ∈ rangeTokens raw, ¬Accepted token) :
    (read raw fallback).value = fallback :=
  if_pos (isEmpty_foldl_addToken_iff.2 h)

theorem contains_read (h : ∃ token ∈ rangeTokens raw, Accepted token) (fallback : StatusSet)
    (code : Nat) :
    (read raw fallback).value.contains code = true ↔
      ∃ token ∈ rangeTokens raw, Encloses token code := by
  have hvalue : (read raw fallback).value =
      ((rangeTokens raw).foldl addToken (.clean empty)).value := by
    apply if_neg
    rw [isEmpty_foldl_addToken_iff]
    intro hnone
    obtain ⟨token, htoken, haccepted⟩ := h
    exact hnone token htoken haccepted
  have hempty : (Reading.clean empty).value.contains code = false := contains_empty code
  rw [hvalue, contains_foldl_addToken, hempty, Bool.false_eq_true, false_or]

/-- A text stands for the union of the ranges that its tokens name. -/
structure Unites (raw : String) : Prop where
  tokens : rangeTokens raw =
    ((raw.toList.filter fun c => !Text.isBlank c).splitOn ',').filter (· ≠ [])
  bounds : ∀ token ∈ rangeTokens raw, ∀ r,
    readRange token = .ok r ↔ ∃ a b, Names token a b ∧ r = (min a b, max a b)
  contains (h : ∃ token ∈ rangeTokens raw, Accepted token) (fallback : StatusSet) (code : Nat) :
    (read raw fallback).value.contains code = true ↔
      ∃ token ∈ rangeTokens raw, Encloses token code
  rejected (fallback : StatusSet) : (read raw fallback).rejected.map Rejected.token =
    ((rangeTokens raw).filter fun token => ¬Accepted token).map String.ofList
  fallback : (∀ fallback, (read raw fallback).value = fallback) ↔
    ∀ token ∈ rangeTokens raw, ¬Accepted token
  order {raw' : String} (h : (rangeTokens raw').Perm (rangeTokens raw)) (fallback : StatusSet) :
    (read raw' fallback).value = (read raw fallback).value

theorem read_unites (raw : String) : Unites raw := by
  constructor
  case tokens =>
    rw [rangeTokens, Text.pieces_eq_splitOnP, ← List.splitOn_eq_splitOnP]
    apply List.filter_congr
    intro token _
    cases token <;> rfl
  case bounds => exact fun token _ r => readRange_eq_ok_iff
  case contains => exact contains_read
  case rejected => exact fun fallback => rejected_foldl_addToken (rangeTokens raw) (.clean empty)
  case fallback =>
    constructor
    · intro h token htoken haccepted
      obtain ⟨code, hcode⟩ := haccepted.exists_encloses
      have hcontains := contains_read ⟨token, htoken, haccepted⟩ empty code
      rw [h, contains_empty] at hcontains
      exact Bool.false_ne_true (hcontains.2 ⟨token, htoken, hcode⟩)
    · exact fun h fallback => value_read_of_rejected h
  case order =>
    intro raw' h fallback
    by_cases haccepted : ∃ token ∈ rangeTokens raw, Accepted token
    · have haccepted' : ∃ token ∈ rangeTokens raw', Accepted token := by
        simpa only [h.mem_iff] using haccepted
      apply eq_of_contains
      intro code
      rw [Bool.eq_iff_iff, contains_read haccepted' fallback, contains_read haccepted fallback]
      simp only [h.mem_iff]
    · simp only [not_exists, not_and] at haccepted
      rw [value_read_of_rejected haccepted, value_read_of_rejected]
      simpa only [h.mem_iff] using haccepted

example : (read "+07 - 5, 4--5, 600, 5-" empty).value.codes = [5, 6, 7] := by
  decide +kernel

end Union

end TracerSettings.StatusSet
