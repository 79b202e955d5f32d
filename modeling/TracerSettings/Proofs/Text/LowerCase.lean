import Mathlib.Data.List.Basic
import TracerSettings.Proofs.Text.Blank
import TracerSettings.Text.LowerCase

namespace TracerSettings.Text

namespace LowerCase

theorem ofChar_ne_nil (c : Char) : ofChar c ≠ [] := by
  unfold ofChar
  split
  · exact List.cons_ne_nil _ _
  · split <;> exact List.cons_ne_nil _ _

/-- A final sigma counts for one character as any other sigma does, so no case gets shorter. -/
theorem le_length_ofChars (seen cs out : List Char) :
    out.length + cs.length ≤ (ofChars seen cs out).length := by
  induction cs generalizing seen out with
  | nil => simp [ofChars]
  | cons c cs ih =>
      simp only [ofChars]
      split
      · have hrest := ih (c :: seen) ((if casedNext seen && !casedNext cs then 'ς' else 'σ') :: out)
        rw [List.length_cons] at hrest ⊢
        omega
      · have hrest := ih (c :: seen) ((ofChar c).reverse ++ out)
        have hpos := List.length_pos_iff.2 (ofChar_ne_nil c)
        rw [List.length_append, List.length_reverse] at hrest
        rw [List.length_cons]
        omega

def blankRanges : List (Nat × Nat) :=
  [(9, 13), (0x20, 0x20), (0x85, 0x85), (0xA0, 0xA0), (0x1680, 0x1680), (0x2000, 0x200A),
    (0x2028, 0x2029), (0x202F, 0x202F), (0x205F, 0x205F), (0x3000, 0x3000)]

theorem exists_blankRange {c : Char} (h : isBlank c = true) :
    ∃ range ∈ blankRanges, range.1 ≤ c.toNat ∧ c.toNat ≤ range.2 := by
  simp only [isBlank, Bool.or_eq_true, Bool.and_eq_true, decide_eq_true_eq, beq_iff_eq] at h
  simp only [blankRanges, List.exists_mem_cons_iff, List.not_mem_nil, false_and, exists_false,
    or_false]
  omega

theorem apart_of_mem_runs : ∀ r ∈ runs, ∀ range ∈ blankRanges,
    (r.last : Int) + r.offset < range.1 ∨ (range.2 : Int) < r.first + r.offset := by
  decide +kernel

theorem toNat_ofNat_of_isBlank {n : Nat} (h : isBlank (Char.ofNat n) = true) :
    (Char.ofNat n).toNat = n := by
  by_cases hvalid : n.isValidChar
  · rw [Char.ofNat, dif_pos hvalid]
    rfl
  · rw [Char.ofNat, dif_neg hvalid] at h
    cases h

theorem not_isBlank_shifted {r : Run} (hr : r ∈ runs) {n : Nat} (h : r.holds n = true) :
    isBlank (Char.ofNat (n + r.offset).toNat) = false := by
  rw [Run.holds, Bool.and_eq_true, Bool.and_eq_true, decide_eq_true_eq, decide_eq_true_eq] at h
  rw [Bool.eq_false_iff]
  intro hblank
  obtain ⟨range, hrange, hfirst, hlast⟩ := exists_blankRange hblank
  rw [toNat_ofNat_of_isBlank hblank] at hfirst hlast
  have hpositive : ∀ range ∈ blankRanges, 0 < range.1 := by decide
  have hpos := hpositive range hrange
  have hapart := apart_of_mem_runs r hr range hrange
  omega

theorem not_isBlank_of_mem_ofChar {c : Char} (hc : isBlank c = false) :
    ∀ d ∈ ofChar c, isBlank d = false := by
  unfold ofChar
  split
  · exact List.forall_mem_cons.2 ⟨rfl, List.forall_mem_singleton.2 rfl⟩
  · split
    · rename_i r hfind
      rw [List.forall_mem_singleton]
      exact not_isBlank_shifted (List.mem_of_find?_eq_some hfind)
        (List.find?_some (p := fun r : Run => r.holds c.toNat) hfind)
    · exact List.forall_mem_singleton.2 hc

theorem exists_mem_ofChars {seen cs out : List Char}
    (h : ∃ c ∈ out ++ cs, isBlank c = false) : ∃ c ∈ ofChars seen cs out, isBlank c = false := by
  induction cs generalizing seen out with
  | nil => simpa [ofChars] using h
  | cons c cs ih =>
      obtain ⟨d, hd, hblank⟩ := h
      simp only [ofChars]
      -- The character moves over to what is done already, changed or not.
      rcases List.mem_append.1 hd with hd | hd
      · split
        · exact ih ⟨d, by simp [hd], hblank⟩
        · exact ih ⟨d, by simp [hd], hblank⟩
      · rcases List.mem_cons.1 hd with rfl | hd
        · split
          · refine ih ⟨_, List.mem_append_left cs List.mem_cons_self, ?_⟩
            split <;> decide
          · obtain ⟨d', rest, hchar⟩ := List.exists_cons_of_ne_nil (ofChar_ne_nil d)
            have hmem : d' ∈ ofChar d := hchar ▸ List.mem_cons_self
            exact ih ⟨d', by simp [hmem], not_isBlank_of_mem_ofChar hblank d' hmem⟩
        · split
          · exact ih ⟨d, by simp [hd], hblank⟩
          · exact ih ⟨d, by simp [hd], hblank⟩

theorem bounds_of_mem_runs : ∀ r ∈ runs, 97 ≤ (r.first : Int) + r.offset ∧
    ((r.last : Int) + r.offset < 0xD800 ∨
      0xDFFF < (r.first : Int) + r.offset ∧ (r.last : Int) + r.offset < 0x110000) := by
  decide +kernel

theorem le_toNat_shifted {r : Run} (hr : r ∈ runs) {n : Nat} (h : r.holds n = true) :
    97 ≤ (Char.ofNat (n + r.offset).toNat).toNat := by
  rw [Run.holds, Bool.and_eq_true, Bool.and_eq_true, decide_eq_true_eq, decide_eq_true_eq] at h
  have hbounds := bounds_of_mem_runs r hr
  have hvalid : ((n : Int) + r.offset).toNat.isValidChar := by
    rw [Nat.isValidChar]
    omega
  have hcode : (Char.ofNat (n + r.offset).toNat).toNat = ((n : Int) + r.offset).toNat := by
    rw [Char.ofNat, dif_pos hvalid]
    rfl
  omega

theorem eq_or_le_of_mem_ofChar {c d : Char} (h : d ∈ ofChar c) : d = c ∨ 97 ≤ d.toNat := by
  unfold ofChar at h
  split at h
  · right
    rcases List.mem_cons.1 h with rfl | h
    · decide
    · rw [List.mem_singleton.1 h]
      decide
  · split at h
    · rename_i r hfind
      right
      rw [List.mem_singleton.1 h]
      exact le_toNat_shifted (List.mem_of_find?_eq_some hfind)
        (List.find?_some (p := fun r : Run => r.holds c.toNat) hfind)
    · exact .inl (List.mem_singleton.1 h)

theorem mem_or_le_of_mem_ofChars {seen cs out : List Char} {d : Char}
    (h : d ∈ ofChars seen cs out) : d ∈ out ++ cs ∨ 97 ≤ d.toNat := by
  induction cs generalizing seen out with
  | nil => exact .inl (by simpa [ofChars] using h)
  | cons c cs ih =>
      -- What stands in the place of one character is itself or a letter.
      have hrest (new : List Char) (hnew : ∀ e ∈ new, e = c ∨ 97 ≤ e.toNat)
          (hd : d ∈ new ++ out ++ cs ∨ 97 ≤ d.toNat) : d ∈ out ++ c :: cs ∨ 97 ≤ d.toNat := by
        rcases hd with hd | hd
        · rw [List.append_assoc, List.mem_append, List.mem_append] at hd
          rcases hd with hd | hd
          · rcases hnew d hd with rfl | hletter
            · exact .inl List.mem_append_cons_self
            · exact .inr hletter
          · exact .inl (List.mem_append.2 (hd.imp_right (List.mem_cons_of_mem c)))
        · exact .inr hd
      simp only [ofChars] at h
      split at h
      · refine hrest [_] (List.forall_mem_singleton.2 (.inr ?_)) (ih h)
        split <;> decide
      · refine hrest _ (fun e he => ?_) (ih h)
        exact eq_or_le_of_mem_ofChar (List.mem_reverse.1 he)

end LowerCase

theorem mem_of_mem_lowerCase {s : String} {d : Char} (hd : d.toNat < 97)
    (h : d ∈ (lowerCase s).toList) : d ∈ s.toList := by
  rw [lowerCase, String.toList_ofList] at h
  rcases LowerCase.mem_or_le_of_mem_ofChars h with h | h
  · exact h
  · omega

theorem lowerCase_ne_empty {s : String} (h : s ≠ "") : lowerCase s ≠ "" := by
  have hlength := LowerCase.le_length_ofChars [] s.toList []
  have hpos : 0 < s.toList.length := by simpa [List.length_pos_iff] using h
  intro hempty
  have hchars : LowerCase.ofChars [] s.toList [] = [] := by
    simpa [lowerCase] using hempty
  rw [hchars, List.length_nil] at hlength
  omega

theorem trim_lowerCase_ne_empty {s : String} (h : trim s ≠ "") : trim (lowerCase s) ≠ "" := by
  rw [trim_ne_empty_iff] at h ⊢
  rw [lowerCase, String.toList_ofList]
  exact LowerCase.exists_mem_ofChars (by simpa using h)

end TracerSettings.Text
