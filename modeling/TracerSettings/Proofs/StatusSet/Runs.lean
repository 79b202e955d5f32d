import Mathlib.Data.List.Basic
import TracerSettings.StatusSet

namespace TracerSettings.StatusSet

theorem words_eq_of_contains {s t : StatusSet} (h : ∀ code, s.contains code = t.contains code) :
    s.words = t.words := by
  apply eq_of_bitAt
  intro position
  rw [← contains_eq_bitAt, h, contains_eq_bitAt]

theorem eq_of_contains {s t : StatusSet} (h : ∀ code, s.contains code = t.contains code) : s = t :=
  eq_of_words (words_eq_of_contains h)

theorem contains_foldl_insert (codes : List Nat) (s : StatusSet) (code : Nat) :
    (codes.foldl insert s).contains code = true ↔
      s.contains code = true ∨ code < limit ∧ code ∈ codes := by
  induction codes generalizing s with
  | nil => simp
  | cons c codes ih =>
      rw [List.foldl_cons, ih, contains_insert, List.mem_cons]
      by_cases h : code = c
      · subst h
        by_cases hlimit : code < limit <;> simp [hlimit]
      · simp [h, Ne.symm h]

theorem contains_insertRange (s : StatusSet) (lo hi code : Nat) :
    (s.insertRange lo hi).contains code = true ↔
      s.contains code = true ∨ code < limit ∧ lo ≤ code ∧ code ≤ hi := by
  have hmem : code ∈ List.range' lo (hi + 1 - lo) ↔ lo ≤ code ∧ code ≤ hi := by
    rw [List.mem_range'_1]
    omega
  rw [insertRange, contains_foldl_insert, hmem]

/-- Ranges in ascending order, with a code left out between any two. -/
structure Spaced (ranges : List (Nat × Nat)) : Prop where
  ordered : ∀ r ∈ ranges, r.1 ≤ r.2
  gaps : ranges.Pairwise fun r r' => r.2 + 2 ≤ r'.1

def Covers (ranges : List (Nat × Nat)) (code : Nat) : Prop :=
  ∃ r ∈ ranges, r.1 ≤ code ∧ code ≤ r.2

section Ranges

variable {r r' : Nat × Nat} {ranges ranges' : List (Nat × Nat)} {code : Nat}

theorem covers_cons :
    Covers (r :: ranges) code ↔ (r.1 ≤ code ∧ code ≤ r.2) ∨ Covers ranges code := by
  simp only [Covers, List.exists_mem_cons_iff]

theorem spaced_cons :
    Spaced (r :: ranges) ↔ r.1 ≤ r.2 ∧ (∀ r' ∈ ranges, r.2 + 2 ≤ r'.1) ∧ Spaced ranges := by
  constructor
  · rintro ⟨hordered, hgaps⟩
    obtain ⟨hr, hordered⟩ := List.forall_mem_cons.1 hordered
    obtain ⟨hgap, hgaps⟩ := List.pairwise_cons.1 hgaps
    exact ⟨hr, hgap, hordered, hgaps⟩
  · rintro ⟨hr, hgap, hordered, hgaps⟩
    exact ⟨List.forall_mem_cons.2 ⟨hr, hordered⟩, List.pairwise_cons.2 ⟨hgap, hgaps⟩⟩

theorem Spaced.le_of_covers_tail (h : Spaced (r :: ranges)) (hcode : Covers ranges code) :
    r.2 + 2 ≤ code := by
  obtain ⟨r', hr', hlo, -⟩ := hcode
  exact Nat.le_trans ((spaced_cons.1 h).2.1 r' hr') hlo

theorem Spaced.le_of_covers (h : Spaced (r :: ranges)) (hcode : Covers (r :: ranges) code) :
    r.1 ≤ code := by
  have hr := (spaced_cons.1 h).1
  rcases covers_cons.1 hcode with hcode | hcode
  · exact hcode.1
  · have hgap := h.le_of_covers_tail hcode
    omega

theorem Spaced.fst_le (h : Spaced (r :: ranges)) (h' : Spaced (r' :: ranges'))
    (hcovers : ∀ code, Covers (r' :: ranges') code → Covers (r :: ranges) code) : r.1 ≤ r'.1 :=
  h.le_of_covers (hcovers _ (covers_cons.2 (.inl ⟨Nat.le_refl _, (spaced_cons.1 h').1⟩)))

theorem Spaced.snd_le (h : Spaced (r :: ranges)) (hfst : r.1 = r'.1)
    (hcovers : ∀ code, Covers (r' :: ranges') code → Covers (r :: ranges) code) : r'.2 ≤ r.2 := by
  by_contra hlt
  have hr := (spaced_cons.1 h).1
  have hnext : Covers (r' :: ranges') (r.2 + 1) := covers_cons.2 (.inl ⟨by omega, by omega⟩)
  rcases covers_cons.1 (hcovers _ hnext) with hcode | hcode
  · omega
  · have hgap := h.le_of_covers_tail hcode
    omega

theorem Spaced.covers_tail (h : Spaced (r :: ranges)) (hcovers : Covers (r :: ranges') code)
    (hcode : Covers ranges code) : Covers ranges' code := by
  have hgap := h.le_of_covers_tail hcode
  rcases covers_cons.1 hcovers with hr | hcode'
  · omega
  · exact hcode'

theorem Spaced.eq_of_covers (h : Spaced ranges) (h' : Spaced ranges')
    (hcovers : ∀ code, Covers ranges code ↔ Covers ranges' code) : ranges = ranges' := by
  induction ranges generalizing ranges' with
  | nil =>
      cases ranges' with
      | nil => rfl
      | cons r' ranges' =>
          have hr' := (hcovers r'.1).2 (covers_cons.2 (.inl ⟨Nat.le_refl _, (spaced_cons.1 h').1⟩))
          obtain ⟨_, hmem, -⟩ := hr'
          exact absurd hmem List.not_mem_nil
  | cons r ranges ih =>
      cases ranges' with
      | nil =>
          have hr := (hcovers r.1).1 (covers_cons.2 (.inl ⟨Nat.le_refl _, (spaced_cons.1 h).1⟩))
          obtain ⟨_, hmem, -⟩ := hr
          exact absurd hmem List.not_mem_nil
      | cons r' ranges' =>
          have hfst : r.1 = r'.1 := Nat.le_antisymm
            (h.fst_le h' fun code => (hcovers code).2) (h'.fst_le h fun code => (hcovers code).1)
          have hsnd : r.2 = r'.2 := Nat.le_antisymm
            (h'.snd_le hfst.symm fun code => (hcovers code).1)
            (h.snd_le hfst fun code => (hcovers code).2)
          obtain rfl : r = r' := Prod.ext hfst hsnd
          congr 1
          apply ih (spaced_cons.1 h).2.2 (spaced_cons.1 h').2.2
          intro code
          constructor
          · exact fun hcode => h.covers_tail ((hcovers code).1 (covers_cons.2 (.inr hcode))) hcode
          · exact fun hcode => h'.covers_tail ((hcovers code).2 (covers_cons.2 (.inr hcode))) hcode

end Ranges

section RunsOf

theorem runsOf_cons_of_nil {codes : List Nat} (h : runsOf codes = []) (code : Nat) :
    runsOf (code :: codes) = [(code, code)] := by
  rw [runsOf, List.foldr_cons]
  rw [runsOf] at h
  rw [h]

theorem runsOf_cons_of_cons {codes : List Nat} {r : Nat × Nat} {ranges : List (Nat × Nat)}
    (h : runsOf codes = r :: ranges) (code : Nat) :
    runsOf (code :: codes) =
      if r.1 = code + 1 then (code, r.2) :: ranges else (code, code) :: r :: ranges := by
  rw [runsOf, List.foldr_cons]
  rw [runsOf] at h
  rw [h]

theorem ordered_runsOf (codes : List Nat) : ∀ r ∈ runsOf codes, r.1 ≤ r.2 := by
  induction codes with
  | nil => exact fun _ h => absurd h List.not_mem_nil
  | cons code codes ih =>
      cases h : runsOf codes with
      | nil => simp [runsOf_cons_of_nil h]
      | cons r ranges =>
          rw [h] at ih
          obtain ⟨hr, hranges⟩ := List.forall_mem_cons.1 ih
          rw [runsOf_cons_of_cons h]
          split
          · exact List.forall_mem_cons.2 ⟨by omega, hranges⟩
          · exact List.forall_mem_cons.2 ⟨Nat.le_refl _, ih⟩

theorem covers_runsOf {codes : List Nat} {code : Nat} :
    Covers (runsOf codes) code ↔ code ∈ codes := by
  induction codes with
  | nil => exact iff_of_false (fun ⟨_, hmem, _⟩ => absurd hmem List.not_mem_nil) List.not_mem_nil
  | cons c codes ih =>
      rw [List.mem_cons, ← ih]
      cases h : runsOf codes with
      | nil =>
          rw [runsOf_cons_of_nil h, covers_cons]
          exact or_congr_left (by omega)
      | cons r ranges =>
          have hr := ordered_runsOf codes r (h ▸ List.mem_cons_self)
          rw [runsOf_cons_of_cons h]
          split
          · rw [covers_cons, covers_cons, ← or_assoc]
            exact or_congr_left (by omega)
          · rw [covers_cons]
            exact or_congr_left (by omega)

theorem spaced_runsOf {codes : List Nat} (h : codes.Pairwise (· < ·)) : Spaced (runsOf codes) := by
  refine ⟨ordered_runsOf codes, ?_⟩
  induction codes with
  | nil => exact List.Pairwise.nil
  | cons code codes ih =>
      obtain ⟨hcode, hcodes⟩ := List.pairwise_cons.1 h
      cases hruns : runsOf codes with
      | nil =>
          rw [runsOf_cons_of_nil hruns]
          exact List.pairwise_singleton _ _
      | cons r ranges =>
          have hordered := ordered_runsOf codes
          have hgaps := ih hcodes
          rw [hruns] at hordered hgaps
          obtain ⟨hgap, hranges⟩ := List.pairwise_cons.1 hgaps
          rw [runsOf_cons_of_cons hruns]
          split
          · exact List.pairwise_cons.2 ⟨hgap, hranges⟩
          · refine List.pairwise_cons.2 ⟨?_, hgaps⟩
            -- A range starts at one of the codes, so it is above the new one.
            have hstart : r.1 ∈ codes :=
              covers_runsOf.1 ⟨r, hruns ▸ List.mem_cons_self, Nat.le_refl _,
                hordered r List.mem_cons_self⟩
            have hlt := hcode r.1 hstart
            have hr := hordered r List.mem_cons_self
            refine List.forall_mem_cons.2 ⟨by omega, fun r' hr' => ?_⟩
            have hnext := hgap r' hr'
            omega

end RunsOf

theorem covers_runs {s : StatusSet} {code : Nat} : Covers s.runs code ↔ s.contains code = true :=
  covers_runsOf.trans mem_codes

theorem spaced_runs (s : StatusSet) : Spaced s.runs :=
  spaced_runsOf (List.pairwise_lt_range.filter _)

theorem lt_limit_of_mem_runs {s : StatusSet} {r : Nat × Nat} (h : r ∈ s.runs) : r.2 < limit :=
  lt_limit_of_contains (covers_runs.1 ⟨r, h, s.spaced_runs.ordered r h, Nat.le_refl _⟩)

theorem contains_foldl_insertRange (ranges : List (Nat × Nat)) (s : StatusSet) (code : Nat) :
    (ranges.foldl (fun s r => s.insertRange r.1 r.2) s).contains code = true ↔
      s.contains code = true ∨ code < limit ∧ Covers ranges code := by
  induction ranges generalizing s with
  | nil => simp [Covers]
  | cons r ranges ih =>
      rw [List.foldl_cons, ih, contains_insertRange, covers_cons, or_assoc, ← and_or_left]

theorem foldl_insertRange_runs (s : StatusSet) :
    s.runs.foldl (fun s r => s.insertRange r.1 r.2) empty = s := by
  apply eq_of_contains
  intro code
  rw [Bool.eq_iff_iff, contains_foldl_insertRange, covers_runs]
  constructor
  · rintro (h | ⟨-, h⟩)
    · simp at h
    · exact h
  · exact fun h => .inr ⟨lt_limit_of_contains h, h⟩

end TracerSettings.StatusSet
