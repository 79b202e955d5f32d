import TracerSettings.Proofs.Text.Cut

namespace TracerSettings.Text

def lines (cs : List Char) : List (List Char) := pieces (· == '\n') cs

def ended (ls : List (List Char)) : List Char := ls.flatMap (· ++ ['\n'])

theorem ended_cons (l : List Char) (ls : List (List Char)) :
    ended (l :: ls) = l ++ '\n' :: ended ls := by
  simp [ended]

theorem ended_append (ls ls' : List (List Char)) : ended (ls ++ ls') = ended ls ++ ended ls' :=
  List.flatMap_append

theorem not_mem_of_mem_lines {cs l : List Char} (h : l ∈ lines cs) : '\n' ∉ l := fun hmem => by
  simpa using false_of_mem_pieces h '\n' hmem

theorem lines_of_not_mem {cs : List Char} (h : '\n' ∉ cs) : lines cs = [cs] := by
  have hcs : ∀ c ∈ cs, (c == '\n') = false := fun c hc => by
    rw [beq_eq_false_iff_ne]
    rintro rfl
    exact h hc
  simpa [lines, pieces_nil] using pieces_append_of_forall hcs []

theorem lines_ended (ls : List (List Char)) : lines (ended ls) = ls.flatMap lines ++ [[]] := by
  induction ls with
  | nil => rfl
  | cons l ls ih =>
      rw [ended_cons, lines, pieces_append_cons (by rfl)]
      exact (congrArg (lines l ++ ·) ih).trans (by simp)

theorem ended_lines (cs : List Char) : ended (lines cs) = cs ++ ['\n'] := by
  induction cs with
  | nil => rfl
  | cons c cs ih =>
      obtain ⟨w, ws, hws⟩ := List.exists_cons_of_ne_nil (pieces_ne_nil (· == '\n') cs)
      rw [lines, hws] at ih
      rw [lines, pieces_cons, hws]
      split
      · rename_i hc
        rw [beq_iff_eq] at hc
        rw [ended_cons, ih, hc]
        rfl
      · rw [ended_cons] at ih ⊢
        simpa using ih

theorem ended_flatMap_lines (ls : List (List Char)) : ended (ls.flatMap lines) = ended ls := by
  induction ls with
  | nil => rfl
  | cons l ls ih =>
      rw [List.flatMap_cons, ended_append, ended_lines, ih, ended_cons, List.append_assoc,
        List.singleton_append]

end TracerSettings.Text
