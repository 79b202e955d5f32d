import Mathlib.Data.List.TakeWhile
import TracerSettings.Text.Cut

namespace TracerSettings.Text

theorem false_of_mem_head?_dropWhile {p : Char → Bool} {cs : List Char} {c : Char}
    (h : c ∈ (cs.dropWhile p).head?) : p c = false := by
  have hstop := List.head?_dropWhile_not p cs
  rw [Option.mem_def.1 h] at hstop
  exact hstop

section Runs

variable {p : Char → Bool} {front back : List Char}

theorem takeWhile_append_stop (hfront : ∀ c ∈ front, p c = true)
    (hback : ∀ c ∈ back.head?, p c = false) : (front ++ back).takeWhile p = front := by
  rw [List.takeWhile_append_of_pos hfront]
  cases back with
  | nil => simp
  | cons c back => simp [hback c rfl]

theorem dropWhile_append_stop (hfront : ∀ c ∈ front, p c = true)
    (hback : ∀ c ∈ back.head?, p c = false) : (front ++ back).dropWhile p = back := by
  rw [List.dropWhile_append_of_pos hfront]
  cases back with
  | nil => rfl
  | cons c back => simp [hback c rfl]

end Runs

theorem pieces_eq_splitOnP (p : Char → Bool) (cs : List Char) : pieces p cs = cs.splitOnP p := by
  induction cs with
  | nil => rfl
  | cons c cs ih =>
      rw [pieces_cons, List.splitOnP_cons_eq_if_modifyHead, ih]
      split
      · rfl
      · obtain ⟨w, ws, h⟩ := List.exists_cons_of_ne_nil (List.splitOnP_ne_nil p cs)
        rw [h]
        rfl

theorem pieces_intercalate {c : Char} {words : List (List Char)} (hwords : words ≠ [])
    (h : ∀ w ∈ words, c ∉ w) : pieces (· == c) ([c].intercalate words) = words := by
  rw [pieces_eq_splitOnP, ← List.splitOn_eq_splitOnP]
  exact List.splitOn_intercalate c h hwords

theorem pieces_append_cons {p : Char → Bool} {c : Char} (h : p c = true) (left right : List Char) :
    pieces p (left ++ c :: right) = pieces p left ++ pieces p right := by
  simp only [pieces_eq_splitOnP]
  exact List.splitOnP_append_cons left right h

theorem pieces_append_of_forall {p : Char → Bool} {left : List Char} (h : ∀ c ∈ left, p c = false)
    (right : List Char) :
    pieces p (left ++ right) = (left ++ (pieces p right).headD []) :: (pieces p right).tail := by
  induction left with
  | nil =>
      obtain ⟨w, ws, hws⟩ := List.exists_cons_of_ne_nil (pieces_ne_nil p right)
      rw [List.nil_append, hws]
      rfl
  | cons c left ih =>
      have hc : p c = false := h c List.mem_cons_self
      rw [List.cons_append, pieces_cons, ih fun d hd => h d (List.mem_cons_of_mem c hd), hc]
      rfl

theorem false_of_mem_pieces {p : Char → Bool} {cs w : List Char} (hw : w ∈ pieces p cs) :
    ∀ c ∈ w, p c = false := by
  induction cs generalizing w with
  | nil =>
      rw [pieces_nil, List.mem_singleton] at hw
      simp [hw]
  | cons c cs ih =>
      obtain ⟨v, vs, hvs⟩ := List.exists_cons_of_ne_nil (pieces_ne_nil p cs)
      rw [pieces_cons, hvs] at hw
      rw [hvs] at ih
      split at hw
      · rcases List.mem_cons.1 hw with rfl | hw
        · simp
        · exact ih hw
      · rename_i hc
        rcases List.mem_cons.1 hw with rfl | hw
        · intro d hd
          rcases List.mem_cons.1 hd with rfl | hd
          · simpa using hc
          · exact ih List.mem_cons_self d hd
        · exact ih (List.mem_cons_of_mem v hw)

theorem exists_mem_pieces {p : Char → Bool} {cs : List Char} {c : Char} (h : c ∈ cs) :
    p c = true ∨ ∃ w ∈ pieces p cs, c ∈ w := by
  induction cs with
  | nil => cases h
  | cons d cs ih =>
      obtain ⟨v, vs, hvs⟩ := List.exists_cons_of_ne_nil (pieces_ne_nil p cs)
      rw [pieces_cons]
      rw [hvs] at ih ⊢
      rcases List.mem_cons.1 h with rfl | h
      · by_cases hc : p c = true
        · exact .inl hc
        · rw [if_neg hc]
          exact .inr ⟨_, List.mem_cons_self, List.mem_cons_self⟩
      · refine (ih h).imp_right ?_
        rintro ⟨w, hw, hc⟩
        split
        · exact ⟨w, List.mem_cons_of_mem [] hw, hc⟩
        · rcases List.mem_cons.1 hw with rfl | hw
          · exact ⟨_, List.mem_cons_self, List.mem_cons_of_mem d hc⟩
          · exact ⟨w, List.mem_cons_of_mem _ hw, hc⟩

/-- Induction over the separators of a text, from the last one back: what holds of texts without a
separator and passes from the text behind a separator to the whole holds of all texts. -/
@[elab_as_elim]
theorem separated_induction {p : Char → Bool} {motive : List Char → Prop}
    (whole : ∀ cs, (∀ c ∈ cs, p c = false) → motive cs)
    (cut : ∀ left d right, (∀ c ∈ left, p c = false) → p d = true → motive right →
      motive (left ++ d :: right))
    (cs : List Char) : motive cs := by
  -- The characters since the last separator have still to be put in front of a text.
  have hfrom (left : List Char) (hleft : ∀ c ∈ left, p c = false) : motive (left ++ cs) := by
    induction cs generalizing left with
    | nil =>
        rw [List.append_nil]
        exact whole left hleft
    | cons c cs ih =>
        cases hc : p c with
        | true => exact cut left c cs hleft hc (ih [] fun d hd => absurd hd List.not_mem_nil)
        | false =>
            rw [List.append_cons]
            apply ih
            exact List.forall_mem_append.2 ⟨hleft, List.forall_mem_singleton.2 hc⟩
  exact hfrom [] fun c hc => absurd hc List.not_mem_nil

theorem cut_eq_some_iff {c : Char} {cs left right : List Char} :
    cut c cs = some (left, right) ↔ c ∉ left ∧ cs = left ++ c :: right := by
  constructor
  · intro h
    have hmem : c ∈ cs := Decidable.byContradiction fun hmem => by
      rw [cut_of_not_mem hmem] at h
      cases h
    obtain ⟨left', right', rfl, hleft⟩ := List.eq_append_cons_of_mem hmem
    rw [cut_append hleft] at h
    obtain ⟨rfl, rfl⟩ := Prod.mk.inj (Option.some.inj h)
    exact ⟨hleft, rfl⟩
  · rintro ⟨hleft, rfl⟩
    exact cut_append hleft right

theorem cut_eq_none_iff {c : Char} {cs : List Char} : cut c cs = none ↔ c ∉ cs := by
  constructor
  · intro h hmem
    obtain ⟨left, right, rfl, hleft⟩ := List.eq_append_cons_of_mem hmem
    rw [cut_append hleft] at h
    cases h
  · exact cut_of_not_mem

theorem cutLast_eq_some_iff {c : Char} {cs left right : List Char} :
    cutLast c cs = some (left, right) ↔ c ∉ right ∧ cs = left ++ c :: right := by
  simp only [cutLast, Option.map_eq_some_iff, Prod.exists, cut_eq_some_iff, Prod.mk.injEq]
  constructor
  · rintro ⟨after, before, ⟨hafter, hcs⟩, rfl, rfl⟩
    refine ⟨fun hmem => hafter (List.mem_reverse.1 hmem), ?_⟩
    rw [← List.reverse_reverse cs, hcs]
    simp
  · rintro ⟨hright, rfl⟩
    exact ⟨right.reverse, left.reverse, ⟨by rwa [List.mem_reverse], by simp⟩, by simp, by simp⟩

theorem cutLast_append {c : Char} {right : List Char} (h : c ∉ right) (left : List Char) :
    cutLast c (left ++ c :: right) = some (left, right) :=
  cutLast_eq_some_iff.2 ⟨h, rfl⟩

theorem cutLast_eq_none_iff {c : Char} {cs : List Char} : cutLast c cs = none ↔ c ∉ cs := by
  rw [cutLast, Option.map_eq_none_iff, cut_eq_none_iff, List.mem_reverse]

end TracerSettings.Text
