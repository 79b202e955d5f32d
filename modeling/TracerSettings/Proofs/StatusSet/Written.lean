import TracerSettings.Proofs.Number.Integer
import TracerSettings.Proofs.StatusSet.Runs
import TracerSettings.Proofs.Text.Cut
import TracerSettings.StatusSet

namespace TracerSettings.StatusSet

section Runs

variable {run : Nat × Nat}

def runChars (run : Nat × Nat) : List Char :=
  if run.1 = run.2 then Nat.toDigits 10 run.1
  else Nat.toDigits 10 run.1 ++ '-' :: Nat.toDigits 10 run.2

theorem toList_runText (run : Nat × Nat) : (runText run).toList = runChars run := by
  unfold runText runChars
  split <;> simp

theorem runChars_ne_nil (run : Nat × Nat) : runChars run ≠ [] := by
  unfold runChars
  split
  · exact Nat.toDigits_ne_nil
  · exact List.append_ne_nil_of_right_ne_nil _ (List.cons_ne_nil _ _)

theorem isDigit_or_dash_of_mem_runChars {c : Char} (h : c ∈ runChars run) :
    c.isDigit = true ∨ c = '-' := by
  unfold runChars at h
  split at h
  · exact .inl (isDigit_of_mem_toDigits h)
  · rcases List.mem_append.1 h with h | h
    · exact .inl (isDigit_of_mem_toDigits h)
    · rcases List.mem_cons.1 h with rfl | h
      · exact .inr rfl
      · exact .inl (isDigit_of_mem_toDigits h)

theorem comma_notMem_runChars (run : Nat × Nat) : ',' ∉ runChars run := by
  intro h
  rcases isDigit_or_dash_of_mem_runChars h with h | h <;> revert h <;> decide

theorem isBlank_of_mem_runChars {c : Char} (h : c ∈ runChars run) : Text.isBlank c = false := by
  rcases isDigit_or_dash_of_mem_runChars h with h | rfl
  · exact isBlank_of_isDigit h
  · decide

theorem dash_mem_runChars : '-' ∈ runChars run ↔ run.1 ≠ run.2 := by
  unfold runChars
  split
  case isTrue h => exact iff_of_false (notMem_toDigits (by decide) _) (not_not_intro h)
  case isFalse h => exact iff_of_true (List.mem_append_right _ List.mem_cons_self) h

theorem readCode_toDigits {code : Nat} (h : code < limit) :
    readCode (Nat.toDigits 10 code) = .ok code := by
  have hle : code ≤ IntegerRange.word16.greatest.toNat := Nat.le_trans (Nat.le_of_lt h) (by decide)
  rw [readCode, IntegerRange.read_ofList_toDigits hle]
  exact if_pos h

theorem readRange_runChars (hordered : run.1 ≤ run.2) (hlimit : run.2 < limit) :
    readRange (runChars run) = .ok run := by
  have hdash (code : Nat) : '-' ∉ Nat.toDigits 10 code := notMem_toDigits (by decide) code
  have hfst := readCode_toDigits (Nat.lt_of_le_of_lt hordered hlimit)
  unfold runChars
  split
  case isTrue h =>
    rw [readRange, Text.cut_of_not_mem (hdash _), hfst]
    exact congrArg Except.ok (Prod.ext rfl h)
  case isFalse =>
    simp only [readRange, Text.cut_append (hdash _), hfst, readCode_toDigits hlimit]
    show Except.ok (min run.1 run.2, max run.1 run.2) = Except.ok run
    rw [Nat.min_eq_left hordered, Nat.max_eq_right hordered]

end Runs

section Render

variable {s t : StatusSet}

theorem toList_render (s : StatusSet) :
    s.render.toList = [','].intercalate (s.runs.map runChars) := by
  have hruns : (s.runs.map runText).map String.toList = s.runs.map runChars := by
    rw [List.map_map]
    exact List.map_congr_left fun run _ => toList_runText run
  rw [render, String.toList_intercalate, hruns]
  rfl

theorem isBlank_of_mem_intercalate {words : List (List Char)}
    (h : ∀ w ∈ words, ∀ c ∈ w, Text.isBlank c = false) :
    ∀ c ∈ [','].intercalate words, Text.isBlank c = false := by
  induction words with
  | nil => exact fun _ hc => absurd hc List.not_mem_nil
  | cons w words ih =>
      obtain ⟨hw, hwords⟩ := List.forall_mem_cons.1 h
      cases words with
      | nil => simpa using hw
      | cons w' words =>
          rw [List.intercalate_cons_cons, List.append_assoc]
          refine List.forall_mem_append.2 ⟨hw, List.forall_mem_append.2 ⟨?_, ih hwords⟩⟩
          exact List.forall_mem_singleton.2 (by decide)

theorem rangeTokens_render (s : StatusSet) : rangeTokens s.render = s.runs.map runChars := by
  have hblank : s.render.toList.filter (fun c => !Text.isBlank c) = s.render.toList := by
    apply List.filter_eq_self.2
    rw [toList_render]
    have hwords : ∀ w ∈ s.runs.map runChars, ∀ c ∈ w, Text.isBlank c = false :=
      List.forall_mem_map.2 fun run _ c hc => isBlank_of_mem_runChars hc
    intro c hc
    rw [isBlank_of_mem_intercalate hwords c hc, Bool.not_false]
  rw [rangeTokens, hblank, toList_render]
  cases hruns : s.runs.map runChars with
  | nil => rfl
  | cons w words =>
      rw [← hruns, Text.pieces_intercalate (by simp [hruns])]
      · apply List.filter_eq_self.2
        exact List.forall_mem_map.2 fun run _ => by simp [runChars_ne_nil]
      · exact List.forall_mem_map.2 fun run _ => comma_notMem_runChars run

theorem readRange_of_mem_runs {run : Nat × Nat} (h : run ∈ s.runs) :
    readRange (runChars run) = .ok run :=
  readRange_runChars (s.spaced_runs.ordered run h) (lt_limit_of_mem_runs h)

theorem foldl_addToken {runs : List (Nat × Nat)}
    (h : ∀ run ∈ runs, readRange (runChars run) = .ok run) (r : Reading StatusSet) :
    (runs.map runChars).foldl addToken r =
      ⟨runs.foldl (fun s run => s.insertRange run.1 run.2) r.value, r.rejected⟩ := by
  induction runs generalizing r with
  | nil => rfl
  | cons run runs ih =>
      obtain ⟨hrun, hruns⟩ := List.forall_mem_cons.1 h
      rw [List.map_cons, List.foldl_cons, ih hruns, addToken, hrun, List.foldl_cons]

theorem read_render (s fallback : StatusSet) :
    read s.render fallback = ⟨if s.isEmpty then fallback else s, []⟩ := by
  have hread : (rangeTokens s.render).foldl addToken (.clean empty) = ⟨s, []⟩ := by
    rw [rangeTokens_render, foldl_addToken fun _ => readRange_of_mem_runs]
    show (⟨s.runs.foldl (fun s run => s.insertRange run.1 run.2) empty, []⟩ : Reading _) = _
    rw [foldl_insertRange_runs]
  rw [read, hread]

theorem runs_eq_nil_iff : s.runs = [] ↔ s.isEmpty = true := by
  rw [isEmpty_iff]
  constructor
  · intro h code
    have hcode : ¬Covers s.runs code := by simp [h, Covers]
    simpa only [covers_runs, Bool.not_eq_true] using hcode
  · intro h
    rw [List.eq_nil_iff_forall_not_mem]
    intro run hrun
    have hcode := covers_runs.1 ⟨run, hrun, Nat.le_refl _, s.spaced_runs.ordered run hrun⟩
    rw [h] at hcode
    cases hcode

theorem render_eq_empty_iff : s.render = "" ↔ s.isEmpty = true := by
  rw [← runs_eq_nil_iff, ← String.toList_eq_nil_iff]
  constructor
  · intro h
    have htokens := rangeTokens_render s
    rw [rangeTokens, h] at htokens
    exact List.map_eq_nil_iff.1 htokens.symm
  · intro h
    rw [toList_render, h]
    rfl

theorem eq_of_isEmpty (hs : s.isEmpty = true) (ht : t.isEmpty = true) : s = t :=
  eq_of_contains fun code => (isEmpty_iff.1 hs code).trans (isEmpty_iff.1 ht code).symm

theorem render_injective (h : s.render = t.render) : s = t := by
  have hread (fallback : StatusSet) :
      (if s.isEmpty then fallback else s) = if t.isEmpty then fallback else t := by
    have hvalues := congrArg (fun text => (read text fallback).value) h
    simpa only [read_render] using hvalues
  -- Each set is the fallback once: an empty one is told apart from any other one.
  have hs := hread s
  have ht := hread t
  rw [ite_self] at hs ht
  by_cases htempty : t.isEmpty = true
  · by_cases hsempty : s.isEmpty = true
    · exact eq_of_isEmpty hsempty htempty
    · rwa [if_neg hsempty] at ht
  · rwa [if_neg htempty] at hs

/-- How a set is written. -/
structure WrittenOut (s : StatusSet) : Prop where
  reads (fallback : StatusSet) :
    read s.render fallback = ⟨if s.isEmpty then fallback else s, []⟩
  joined : s.render.toList = [','].intercalate (rangeTokens s.render)
  ranges : (rangeTokens s.render).map readRange = s.runs.map .ok
  spaced : Spaced s.runs
  covers (code : Nat) : Covers s.runs code ↔ s.contains code = true
  /-- No other ranges would do. -/
  canonical {ranges : List (Nat × Nat)} (hspaced : Spaced ranges)
    (hcovers : ∀ code, Covers ranges code ↔ s.contains code = true) : ranges = s.runs
  dash : ∀ token ∈ rangeTokens s.render,
    '-' ∈ token ↔ ∃ lo hi, readRange token = .ok (lo, hi) ∧ lo < hi
  differs (t : StatusSet) : s.render = t.render ↔ ∀ code, s.contains code = t.contains code
  blank : s.render = "" ↔ s.isEmpty = true

end Render

/-- Every set is written by its ranges, in the one way there is, and reads as it was. -/
theorem render_writtenOut (s : StatusSet) : s.WrittenOut := by
  constructor
  case reads => exact read_render s
  case joined => rw [rangeTokens_render, toList_render]
  case ranges =>
    rw [rangeTokens_render, List.map_map]
    exact List.map_congr_left fun run hrun => readRange_of_mem_runs hrun
  case spaced => exact s.spaced_runs
  case covers => exact fun code => covers_runs
  case canonical =>
    intro ranges hspaced hcovers
    exact hspaced.eq_of_covers s.spaced_runs fun code => (hcovers code).trans covers_runs.symm
  case dash =>
    rw [rangeTokens_render]
    refine List.forall_mem_map.2 fun run hrun => ?_
    have hle := s.spaced_runs.ordered run hrun
    rw [dash_mem_runChars, readRange_of_mem_runs hrun]
    constructor
    · exact fun hne => ⟨run.1, run.2, rfl, Nat.lt_of_le_of_ne hle hne⟩
    · rintro ⟨lo, hi, heq, hlt⟩
      obtain rfl := Except.ok.inj heq
      exact Nat.ne_of_lt hlt
  case differs =>
    intro t
    constructor
    · exact fun h code => render_injective h ▸ rfl
    · exact fun h => eq_of_contains h ▸ rfl
  case blank => exact render_eq_empty_iff

example : (read "504, 500-502, 0, 599-503" empty).value.render = "0,500-599" := by
  decide +kernel

end TracerSettings.StatusSet
