import Mathlib.Data.List.DropRight
import TracerSettings.Proofs.Text.Cut
import TracerSettings.Text.Character

namespace TracerSettings.Text

/-- No white space stands at either end. -/
structure Trimmed (s : String) : Prop where
  start : ∀ c ∈ s.toList.head?, isBlank c = false
  ending : ∀ c ∈ s.toList.getLast?, isBlank c = false

theorem trimChars_eq (cs : List Char) :
    trimChars cs = (cs.dropWhile isBlank).rdropWhile isBlank := rfl

theorem trimChars_of_ends {cs : List Char} (hstart : ∀ c ∈ cs.head?, isBlank c = false)
    (hend : ∀ c ∈ cs.getLast?, isBlank c = false) : trimChars cs = cs := by
  have hfront : cs.dropWhile isBlank = cs := by
    cases cs with
    | nil => rfl
    | cons c cs => simp [hstart c rfl]
  have hback : cs.rdropWhile isBlank = cs := by
    rw [List.rdropWhile_eq_self_iff]
    intro hne
    rw [hend _ (List.getLast_mem_getLast? hne)]
    exact Bool.false_ne_true
  rw [trimChars_eq, hfront, hback]

theorem trimmed_trim (s : String) : Trimmed (trim s) := by
  constructor
  · rw [toList_trim, trimChars_eq]
    intro c hc
    -- What is left begins as the text does once its blank start is dropped.
    obtain ⟨rest, hrest⟩ := List.rdropWhile_prefix isBlank (s.toList.dropWhile isBlank)
    have hhead : c ∈ (s.toList.dropWhile isBlank).head? := by
      rw [← hrest, List.head?_append, Option.mem_def.1 hc, Option.some_or]
      rfl
    exact false_of_mem_head?_dropWhile hhead
  · rw [toList_trim, trimChars, trimEnd, List.getLast?_reverse]
    exact fun c hc => false_of_mem_head?_dropWhile hc

theorem trim_eq_self_iff {s : String} : trim s = s ↔ Trimmed s := by
  constructor
  · exact fun h => h ▸ trimmed_trim s
  · intro h
    rw [trim, trimChars_of_ends h.start h.ending, String.ofList_toList]

theorem trim_trim (s : String) : trim (trim s) = trim s := trim_eq_self_iff.2 (trimmed_trim s)

theorem trimChars_of_forall {cs : List Char} (h : ∀ c ∈ cs, isBlank c = false) :
    trimChars cs = cs :=
  trimChars_of_ends (fun c hc => h c (List.mem_of_mem_head? hc)) fun c hc =>
    h c (List.mem_of_mem_getLast? hc)

theorem exists_eq_append_trimChars (cs : List Char) :
    ∃ front back, (∀ c ∈ front, isBlank c = true) ∧ (∀ c ∈ back, isBlank c = true) ∧
      cs = front ++ (trimChars cs ++ back) := by
  refine ⟨cs.takeWhile isBlank, (cs.dropWhile isBlank).rtakeWhile isBlank,
    fun _ => List.mem_takeWhile_imp, fun _ => List.mem_rtakeWhile_imp, ?_⟩
  rw [trimChars_eq, List.rdropWhile_append_rtakeWhile, List.takeWhile_append_dropWhile]

theorem mem_of_mem_trimChars {cs : List Char} {c : Char} (h : c ∈ trimChars cs) : c ∈ cs := by
  obtain ⟨front, back, -, -, hcs⟩ := exists_eq_append_trimChars cs
  rw [hcs]
  exact List.mem_append_right front (List.mem_append_left back h)

theorem trimChars_append_of_front {front : List Char} (h : ∀ c ∈ front, isBlank c = true)
    (cs : List Char) : trimChars (front ++ cs) = trimChars cs := by
  rw [trimChars_eq, List.dropWhile_append_of_pos h, ← trimChars_eq]

theorem trimChars_append_of_back {back : List Char} (h : ∀ c ∈ back, isBlank c = true)
    (cs : List Char) : trimChars (cs ++ back) = trimChars cs := by
  have hdrop : back.dropWhile isBlank = [] := List.dropWhile_eq_nil_iff.2 h
  have hback (front : List Char) :
      (front ++ back).rdropWhile isBlank = front.rdropWhile isBlank := by
    have hreverse : ∀ c ∈ back.reverse, isBlank c = true := by simpa using h
    rw [List.rdropWhile, List.reverse_append, List.dropWhile_append_of_pos hreverse,
      List.rdropWhile]
  rw [trimChars_eq, trimChars_eq, List.dropWhile_append]
  split
  · rename_i hempty
    rw [hdrop, List.isEmpty_iff.1 hempty]
  · exact hback _

theorem trimChars_eq_nil_iff {cs : List Char} :
    trimChars cs = [] ↔ ∀ c ∈ cs, isBlank c = true := by
  constructor
  · intro h
    obtain ⟨front, back, hfront, hback, hcs⟩ := exists_eq_append_trimChars cs
    rw [hcs, h, List.nil_append]
    exact List.forall_mem_append.2 ⟨hfront, hback⟩
  · intro h
    rw [← List.append_nil cs, trimChars_append_of_front h]
    rfl

theorem trim_eq_empty_iff {s : String} : trim s = "" ↔ ∀ c ∈ s.toList, isBlank c = true := by
  rw [← trimChars_eq_nil_iff, trim, String.ofList_eq_empty_iff]

theorem trim_ne_empty_iff {s : String} : trim s ≠ "" ↔ ∃ c ∈ s.toList, isBlank c = false := by
  rw [ne_eq, trim_eq_empty_iff]
  simp

theorem nonBlank_eq_none_iff {s : String} :
    nonBlank s = none ↔ ∀ c ∈ s.toList, isBlank c = true := by
  rw [← trim_eq_empty_iff, nonBlank]
  split <;> simp [*]

theorem exists_eq_append_of_nonBlank {s t : String} (h : nonBlank s = some t) :
    ∃ front back, (∀ c ∈ front, isBlank c = true) ∧ (∀ c ∈ back, isBlank c = true) ∧
      s.toList = front ++ (t.toList ++ back) := by
  obtain ⟨rfl, -⟩ := nonBlank_eq_some h
  rw [toList_trim]
  exact exists_eq_append_trimChars s.toList

end TracerSettings.Text
