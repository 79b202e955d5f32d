import Mathlib.Data.Option.Basic
import TracerSettings.Toml.Reader

namespace TracerSettings.Toml

variable {cs rest : List Char}

@[grind! .]
theorem length_dropWhile_le (p : Char → Bool) (cs : List Char) :
    (cs.dropWhile p).length ≤ cs.length :=
  (List.dropWhile_sublist p).length_le

namespace Datetime

@[grind →]
theorem length_digits_le {n a : Nat} (h : digits n cs = some (a, rest)) :
    rest.length ≤ cs.length := by
  grind [digits]

@[grind →]
theorem length_mark_lt {c : Char} (h : mark c cs = some rest) : rest.length < cs.length := by
  unfold mark at h
  grind

@[grind →]
theorem length_readDate_le {d : Date} (h : readDate cs = some (d, rest)) :
    rest.length ≤ cs.length := by
  simp only [readDate, Option.bind_eq_bind, Option.bind_eq_some_iff, Prod.exists] at h
  grind

@[grind →]
theorem length_readFraction_le {n : Nat} (h : readFraction cs = some (n, rest)) :
    rest.length ≤ cs.length := by
  unfold readFraction at h
  split at h
  · simp only [Option.ite_none_left_eq_some, Option.some.injEq, Prod.mk.injEq] at h
    obtain ⟨-, -, rfl⟩ := h
    exact Nat.le_succ_of_le (length_dropWhile_le _ _)
  · cases h
    exact Nat.le_refl _

@[grind →]
theorem length_readTime_le {t : Time} (h : readTime cs = some (t, rest)) :
    rest.length ≤ cs.length := by
  simp only [readTime, Option.bind_eq_bind, Option.bind_eq_some_iff, Prod.exists] at h
  grind

@[grind →]
theorem length_readShift_le {sign : Int} {o : Offset} (h : readShift sign cs = some (o, rest)) :
    rest.length ≤ cs.length := by
  simp only [readShift, Option.bind_eq_bind, Option.bind_eq_some_iff, Prod.exists] at h
  grind

@[grind →]
theorem length_readOffset_le {o : Option Offset} (h : readOffset cs = some (o, rest)) :
    rest.length ≤ cs.length := by
  unfold readOffset at h
  grind [Option.map_eq_some_iff]

@[grind →]
theorem length_readAfterDate_le {d : Date} {v : Datetime}
    (h : readAfterDate d cs = some (v, rest)) : rest.length ≤ cs.length := by
  unfold readAfterDate at h
  grind [Option.map_eq_some_iff]

@[grind →]
theorem length_read_le {v : Datetime} (h : read cs = some (v, rest)) :
    rest.length ≤ cs.length := by
  unfold read at h
  grind [Option.map_eq_some_iff]

end Datetime

namespace Quoted

@[grind →]
theorem length_codePoint_le {n : Nat} {c : Char} (h : codePoint n cs = some (c, rest)) :
    rest.length ≤ cs.length := by
  grind [codePoint]

@[grind →]
theorem length_escape_le {c : Char} (h : escape cs = some (c, rest)) :
    rest.length ≤ cs.length := by
  unfold escape at h
  grind

@[grind →]
theorem length_newline?_lt (h : newline? cs = some rest) : rest.length < cs.length := by
  unfold newline? at h
  grind

@[grind →]
theorem length_basicFrom_le {fuel : Nat} {out : List Char} {s : String}
    (h : basicFrom fuel out cs = some (s, rest)) : rest.length ≤ cs.length := by
  induction fuel generalizing out cs with
  | zero => cases h
  | succ fuel ih =>
      unfold basicFrom at h
      grind

@[grind →]
theorem length_literalFrom_le {out : List Char} {s : String}
    (h : literalFrom out cs = some (s, rest)) : rest.length ≤ cs.length := by
  induction cs generalizing out with
  | nil => cases h
  | cons c cs ih =>
      unfold literalFrom at h
      grind

theorem length_closeBlock_le (quote : Char) (out cs : List Char) :
    (closeBlock quote out cs).2.length ≤ cs.length := by
  unfold closeBlock
  grind

theorem length_skipLines_le (fuel : Nat) (cs : List Char) :
    (skipLines fuel cs).length ≤ cs.length := by
  induction fuel generalizing cs with
  | zero => exact Nat.le_refl _
  | succ fuel ih =>
      unfold skipLines
      grind

theorem length_skipFirstBreak_le (cs : List Char) : (skipFirstBreak cs).length ≤ cs.length := by
  unfold skipFirstBreak
  cases h : newline? cs with
  | none => exact Nat.le_refl _
  | some rest => exact Nat.le_of_lt (length_newline?_lt h)

@[grind →]
theorem length_basicBlockFrom_le {fuel : Nat} {out : List Char} {s : String}
    (h : basicBlockFrom fuel out cs = some (s, rest)) : rest.length ≤ cs.length := by
  induction fuel generalizing out cs with
  | zero => cases h
  | succ fuel ih =>
      unfold basicBlockFrom at h
      grind [length_closeBlock_le, length_skipLines_le]

@[grind →]
theorem length_literalBlockFrom_le {fuel : Nat} {out : List Char} {s : String}
    (h : literalBlockFrom fuel out cs = some (s, rest)) : rest.length ≤ cs.length := by
  induction fuel generalizing out cs with
  | zero => cases h
  | succ fuel ih =>
      unfold literalBlockFrom at h
      grind [length_closeBlock_le]

@[grind →]
theorem length_readLine_le {fuel : Nat} {s : String} (h : readLine fuel cs = some (s, rest)) :
    rest.length ≤ cs.length := by
  unfold readLine at h
  grind

@[grind →]
theorem length_read_le {fuel : Nat} {s : String} (h : read fuel cs = some (s, rest)) :
    rest.length ≤ cs.length := by
  unfold read at h
  grind [length_skipFirstBreak_le]

end Quoted

open Quoted (isSpace newline?)

@[grind! .]
theorem length_skipSpace_le (cs : List Char) : (skipSpace cs).length ≤ cs.length :=
  length_dropWhile_le isSpace cs

namespace Scalar

theorem length_digitsFrom_le (isDigit : Char → Bool) (out cs : List Char) :
    (digitsFrom isDigit out cs).2.length ≤ cs.length := by
  fun_induction digitsFrom isDigit out cs <;> grind

@[grind →]
theorem length_digits_le {isDigit : Char → Bool} {ds : List Char}
    (h : digits isDigit cs = some (ds, rest)) : rest.length ≤ cs.length := by
  unfold digits at h
  grind [length_digitsFrom_le]

@[grind! .]
theorem length_sign_le (cs : List Char) : (sign cs).2.length ≤ cs.length := by
  unfold sign
  grind

@[grind →]
theorem length_whole_le {w : List Char} (h : whole cs = some (w, rest)) :
    rest.length ≤ cs.length := by
  unfold whole at h
  grind [Option.map_eq_some_iff]

@[grind →]
theorem length_exponent_le {e : List Char} (h : exponent cs = some (e, rest)) :
    rest.length ≤ cs.length := by
  unfold exponent at h
  grind [Option.map_eq_some_iff]

@[grind →]
theorem length_fraction_le {f : List Char} (h : fraction cs = some (f, rest)) :
    rest.length ≤ cs.length := by
  unfold fraction at h
  grind [Option.map_eq_some_iff]

@[grind →]
theorem length_real_le {v : Value} (h : real cs = some (v, rest)) : rest.length ≤ cs.length := by
  simp only [real, Option.bind_eq_bind, Option.bind_eq_some_iff, Prod.exists] at h
  obtain ⟨w, cs₁, hw, h⟩ := h
  split at h
  · rename_i f cs₂ hf
    have he : ((exponent cs₂).getD ([], cs₂)).2.length ≤ cs₂.length := by
      cases he : exponent cs₂ with
      | none => exact Nat.le_refl _
      | some r => exact length_exponent_le he
    grind [Option.bind_eq_some_iff, Option.pure_def]
  · grind [Option.bind_eq_some_iff]

@[grind →]
theorem length_word_le {w : String} {u v : Value} (h : word w u cs = some (v, rest)) :
    rest.length ≤ cs.length := by
  grind [word]

@[grind →]
theorem length_special_le {v : Value} (h : special cs = some (v, rest)) :
    rest.length ≤ cs.length := by
  simp only [special, Option.orElse_eq_orElse, Option.orElse_eq_or, Option.or_eq_some_iff] at h
  grind

@[grind →]
theorem length_ofRadix_le {radix : Nat} {isDigit : Char → Bool} {v : Value}
    (h : ofRadix radix isDigit cs = some (v, rest)) : rest.length ≤ cs.length := by
  simp only [ofRadix, Option.bind_eq_bind, Option.bind_eq_some_iff, Prod.exists] at h
  grind

@[grind →]
theorem length_integer_le {v : Value} (h : integer cs = some (v, rest)) :
    rest.length ≤ cs.length := by
  unfold integer at h
  split at h <;> grind [Option.bind_eq_some_iff]

@[grind →]
theorem length_datetime_le {v : Value} (h : datetime cs = some (v, rest)) :
    rest.length ≤ cs.length := by
  grind [datetime, Option.map_eq_some_iff]

@[grind →]
theorem length_read_le {fuel : Nat} {v : Value} (h : read fuel cs = some (v, rest)) :
    rest.length ≤ cs.length := by
  simp only [read, Option.orElse_eq_orElse, Option.orElse_eq_or] at h
  grind [Option.map_eq_some_iff, Option.or_eq_some_iff]

end Scalar

@[grind →]
theorem length_keyPart_le {fuel : Nat} {part : String} (h : keyPart fuel cs = some (part, rest)) :
    rest.length ≤ cs.length := by
  unfold keyPart at h
  grind

@[grind →]
theorem length_keyFrom_le {fuel parts : Nat} {seen path : List String}
    (h : keyFrom fuel parts seen cs = some (path, rest)) : rest.length ≤ cs.length := by
  induction parts generalizing seen cs with
  | zero => cases h
  | succ parts ih =>
      simp only [keyFrom, Option.bind_eq_bind, Option.bind_eq_some_iff, Prod.exists] at h
      grind

@[grind →]
theorem length_key_le {fuel : Nat} {k : List String × String} (h : key fuel cs = some (k, rest)) :
    rest.length ≤ cs.length := by
  simp only [key, Option.bind_eq_bind, Option.bind_eq_some_iff, Prod.exists] at h
  grind

@[grind →]
theorem length_skipGap_le {inComment : Bool} (h : skipGap inComment cs = some rest) :
    rest.length ≤ cs.length := by
  fun_induction skipGap inComment cs <;> grind

theorem length_arrayFrom_le {item : Quoted.Read Value} {fuel : Nat} {seen items : List Value}
    (hitem : ∀ {cs v rest}, item cs = some (v, rest) → rest.length ≤ cs.length)
    (h : arrayFrom item fuel seen cs = some (items, rest)) : rest.length ≤ cs.length := by
  induction fuel generalizing seen cs with
  | zero => cases h
  | succ fuel ih =>
      simp only [arrayFrom, Option.bind_eq_bind, Option.bind_eq_some_iff] at h
      grind [Option.bind_eq_some_iff]

theorem length_bracesFrom_le {item : Quoted.Read Value} {length fuel : Nat}
    {fields out : Outline.Fields}
    (hitem : ∀ {cs v rest}, item cs = some (v, rest) → rest.length ≤ cs.length)
    (h : bracesFrom item length fuel fields cs = some (out, rest)) : rest.length ≤ cs.length := by
  induction fuel generalizing fields cs with
  | zero => cases h
  | succ fuel ih =>
      simp only [bracesFrom, Option.bind_eq_bind, Option.bind_eq_some_iff, Prod.exists] at h
      grind

@[grind →]
theorem length_value_le {length depth : Nat} {v : Value}
    (h : value length depth cs = some (v, rest)) : rest.length ≤ cs.length := by
  induction depth generalizing cs v rest with
  | zero =>
      rw [value] at h
      exact Scalar.length_read_le h
  | succ depth ih =>
      have harray : ∀ {seen items cs rest},
          arrayFrom (value length depth) length seen cs = some (items, rest) →
            rest.length ≤ cs.length := length_arrayFrom_le ih
      have hbraces : ∀ {fields out cs rest},
          bracesFrom (value length depth) length length fields cs = some (out, rest) →
            rest.length ≤ cs.length := length_bracesFrom_le ih
      unfold value at h
      grind [Option.map_eq_some_iff]

@[grind →]
theorem length_lineEnd_le (h : lineEnd cs = some rest) : rest.length ≤ cs.length - 1 := by
  unfold lineEnd at h
  grind

namespace Progress

@[grind →]
theorem length_assignment_lt {length : Nat} {p q : Progress}
    (h : p.assignment length cs = some (q, rest)) : rest.length < cs.length := by
  simp only [assignment, Option.bind_eq_bind, Option.bind_eq_some_iff, Prod.exists] at h
  grind

@[grind →]
theorem length_tableHeader_le {length : Nat} {p q : Progress}
    (h : p.tableHeader length cs = some (q, rest)) : rest.length ≤ cs.length := by
  simp only [tableHeader, Option.bind_eq_bind, Option.bind_eq_some_iff, Prod.exists] at h
  grind

@[grind →]
theorem length_itemHeader_le {length : Nat} {p q : Progress}
    (h : p.itemHeader length cs = some (q, rest)) : rest.length ≤ cs.length := by
  simp only [itemHeader, Option.bind_eq_bind, Option.bind_eq_some_iff, Prod.exists] at h
  grind

theorem length_line_lt {length : Nat} {p q : Progress} (hcs : cs ≠ [])
    (h : p.line length cs = some (q, rest)) : rest.length < cs.length := by
  unfold line at h
  split at h
  all_goals
    simp only [Option.bind_eq_bind, Option.bind_eq_some_iff, Prod.exists] at h
    grind

end Progress

end TracerSettings.Toml
