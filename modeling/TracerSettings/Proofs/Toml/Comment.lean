import Mathlib.Data.List.TakeWhile
import TracerSettings.Proofs.Text.Lines
import TracerSettings.Proofs.Toml.Fuel

namespace TracerSettings.Toml

open Quoted (isPlain newline?)

/-- Every line begins with the mark of comments. -/
def Marked (ls : List (List Char)) : Prop := ∀ l ∈ ls, l.head? = some '#'

instance : DecidablePred Marked := fun ls =>
  inferInstanceAs (Decidable (∀ l ∈ ls, l.head? = some '#'))

theorem marked_append {ls ls' : List (List Char)} : Marked (ls ++ ls') ↔ Marked ls ∧ Marked ls' :=
  List.forall_mem_append

theorem marked_flatMap {texts : List (List Char)} :
    Marked (texts.flatMap Text.lines) ↔ ∀ text ∈ texts, Marked (Text.lines text) :=
  List.forall_mem_flatMap

/-- A line that is a comment as a whole: plain characters follow its mark, and a carriage return at
most follows those. -/
def isComment : List Char → Bool
  | '#' :: cs => cs.dropWhile isPlain == [] || cs.dropWhile isPlain == ['\r']
  | _ => false

theorem isComment_of_plain {cs : List Char} (h : cs.all isPlain = true) :
    isComment ('#' :: cs) = true := by
  have hdropped : cs.dropWhile isPlain = [] := List.dropWhile_eq_nil_iff.2 (List.all_eq_true.1 h)
  simp [isComment, hdropped]

variable {body rest : List Char}

theorem newline?_append (h : '\n' ∉ body) :
    newline? (body ++ '\n' :: rest) = if body = [] ∨ body = ['\r'] then some rest else none := by
  match body with
  | [] => rfl
  | [c] =>
      rw [List.mem_singleton] at h
      unfold newline?
      grind
  | c :: d :: cs =>
      simp only [List.mem_cons, not_or] at h
      unfold newline?
      grind

theorem dropWhile_isPlain_append :
    (body ++ '\n' :: rest).dropWhile isPlain = body.dropWhile isPlain ++ '\n' :: rest := by
  have hbreak : isPlain '\n' = false := by decide
  rw [List.dropWhile_append]
  split
  · rename_i hempty
    rw [List.isEmpty_iff.1 hempty, List.dropWhile_cons_of_neg (by simp [hbreak]), List.nil_append]
  · rfl

theorem lineEnd_comment (h : '\n' ∉ body) :
    lineEnd ('#' :: (body ++ '\n' :: rest)) =
      if isComment ('#' :: body) then some rest else none := by
  have hspace : skipSpace ('#' :: (body ++ '\n' :: rest)) = '#' :: (body ++ '\n' :: rest) := rfl
  have hdropped : '\n' ∉ body.dropWhile isPlain := fun hmem =>
    h ((List.dropWhile_sublist isPlain).subset hmem)
  rw [lineEnd, hspace]
  simp only [dropWhile_isPlain_append]
  split
  · rename_i hnil
    simp at hnil
  · rw [newline?_append hdropped]
    simp [isComment]

namespace Progress

variable {length fuel : Nat} {p : Progress}

theorem lines_comment (h : '\n' ∉ body) :
    lines length (fuel + 1) p ('#' :: (body ++ '\n' :: rest)) =
      if isComment ('#' :: body) then lines length fuel p rest else none := by
  have hspace : skipSpace ('#' :: (body ++ '\n' :: rest)) = '#' :: (body ++ '\n' :: rest) := rfl
  have hline : p.line length ('#' :: (body ++ '\n' :: rest)) =
      if isComment ('#' :: body) then some (p, rest) else none := by
    simp only [line, Option.bind_eq_bind, Option.bind_some]
    rw [lineEnd_comment h]
    cases isComment ('#' :: body) <;> rfl
  simp only [lines, hspace, hline]
  cases isComment ('#' :: body) <;> rfl

theorem lines_blank : lines length (fuel + 1) p ('\n' :: rest) = lines length fuel p rest := rfl

theorem lines_comments {ls : List (List Char)} (hmark : Marked ls)
    (hbreak : ∀ l ∈ ls, '\n' ∉ l) :
    lines length (ls.length + fuel) p (Text.ended ls ++ rest) =
      if ls.all isComment then lines length fuel p rest else none := by
  induction ls with
  | nil => simp [Text.ended]
  | cons l ls ih =>
      obtain ⟨body, rfl⟩ := List.head?_eq_some_iff.1 (hmark l List.mem_cons_self)
      have hbody : '\n' ∉ body := fun hmem =>
        hbreak _ List.mem_cons_self (List.mem_cons_of_mem _ hmem)
      have hrest := ih (fun l hl => hmark l (List.mem_cons_of_mem _ hl))
        (fun l hl => hbreak l (List.mem_cons_of_mem _ hl))
      rw [List.length_cons, Nat.add_right_comm, Text.ended_cons, List.append_assoc,
        List.cons_append, List.cons_append, lines_comment hbody, hrest, List.all_cons]
      cases isComment ('#' :: body) <;> simp

end Progress

/-- Comments and an empty line in front of a document change nothing, unless one of the lines holds
more than a comment: then there is no document. -/
theorem table?_comments {ls : List (List Char)} {text : List Char}
    (hmark : Marked ls) (hbreak : ∀ l ∈ ls, '\n' ∉ l)
    (htext : dropMark text = text) :
    table? (String.ofList (Text.ended ls ++ '\n' :: text)) =
      if ls.all isComment then table? (String.ofList text) else none := by
  have hwhole : dropMark (Text.ended ls ++ '\n' :: text) = Text.ended ls ++ '\n' :: text := by
    cases ls with
    | nil => rfl
    | cons l ls =>
        obtain ⟨body, rfl⟩ := List.head?_eq_some_iff.1 (hmark l List.mem_cons_self)
        rw [Text.ended_cons]
        rfl
  -- A step for each comment and one for the empty line; what is left over is enough for `text`.
  let size := (Text.ended ls ++ '\n' :: text).length + 1
  have hsize : text.length < size := by
    simp only [size, List.length_append, List.length_cons]
    omega
  have hfuel : size - 1 < ls.length + (size + 1) := by omega
  rw [table?_ofList hwhole (Nat.lt_succ_self _) hfuel, table?_ofList htext hsize hsize,
    Progress.lines_comments hmark hbreak, Progress.lines_blank]
  split <;> rfl

end TracerSettings.Toml
