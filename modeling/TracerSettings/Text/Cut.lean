namespace TracerSettings.Text

/-- The maximal runs without a separator, empty ones included: there is one more of them than
there are separators. -/
def pieces (isSeparator : Char → Bool) (cs : List Char) : List (List Char) :=
  cs.foldr
    (fun c ws =>
      if isSeparator c then [] :: ws
      else (c :: ws.headD []) :: ws.tail)
    [[]]

theorem pieces_nil (p : Char → Bool) : pieces p [] = [[]] := rfl

theorem pieces_cons (p : Char → Bool) (c : Char) (cs : List Char) :
    pieces p (c :: cs) =
      if p c then [] :: pieces p cs
      else (c :: (pieces p cs).headD []) :: (pieces p cs).tail := rfl

theorem pieces_ne_nil (p : Char → Bool) (cs : List Char) : pieces p cs ≠ [] := by
  cases cs with
  | nil => simp [pieces_nil]
  | cons c cs =>
      rw [pieces_cons]
      split <;> simp

def cut (c : Char) (cs : List Char) : Option (List Char × List Char) :=
  match cs.dropWhile (· != c) with
  | [] => none
  | _ :: rest => some (cs.takeWhile (· != c), rest)

theorem dropWhile_bne_of_not_mem {c : Char} {cs : List Char} (h : c ∉ cs) :
    cs.dropWhile (· != c) = [] := by
  induction cs with
  | nil => rfl
  | cons d cs ih =>
      simp only [List.mem_cons, not_or] at h
      simp [Ne.symm h.1, ih h.2]

theorem cut_of_not_mem {c : Char} {cs : List Char} (h : c ∉ cs) : cut c cs = none := by
  simp [cut, dropWhile_bne_of_not_mem h]

theorem cut_append {c : Char} {left : List Char} (h : c ∉ left) (right : List Char) :
    cut c (left ++ c :: right) = some (left, right) := by
  have hne : ∀ x ∈ left, (x != c) = true := by
    intro x hx
    simp only [bne_iff_ne, ne_eq]
    rintro rfl
    exact h hx
  simp [cut, List.dropWhile_append_of_pos hne, List.takeWhile_append_of_pos hne]

def cutLast (c : Char) (cs : List Char) : Option (List Char × List Char) :=
  (cut c cs.reverse).map fun (after, before) => (before.reverse, after.reverse)

def occursIn (word : List Char) : List Char → Bool
  | [] => word.isEmpty
  | c :: cs => word.isPrefixOf (c :: cs) || occursIn word cs

end TracerSettings.Text
