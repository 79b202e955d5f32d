import TracerSettings.Proofs.Text.Cut
import TracerSettings.Proofs.Toml.Rest
import TracerSettings.Toml.Printer

namespace TracerSettings.Toml.Printer

open Quoted (isPlain isSpace newline?)

theorem isPlain_of_isControl_eq_false {c : Char} (h : isControl c = false) (hline : c ≠ '\n') :
    isPlain c = true := by
  have htoNat : c.toNat ≠ 10 := fun heq => hline (Char.toNat_inj.1 heq)
  simp only [isControl, isPlain, Bool.or_eq_false_iff, Bool.and_eq_false_iff,
    decide_eq_false_iff_not, bne_eq_false_iff_eq, beq_eq_false_iff_ne, Bool.or_eq_true,
    Bool.and_eq_true, decide_eq_true_eq, beq_iff_eq, bne_iff_ne] at h ⊢
  grind

theorem codePoint_of_isControl {c : Char} (h : isControl c = true) (tail : List Char) :
    Quoted.codePoint 4 ((Text.hexDigits 4 c.toNat).map Char.toUpper ++ tail) = some (c, tail) := by
  have hall : ∀ n < 128, ((Text.hexDigits 4 n).map Char.toUpper).length = 4 ∧
      ((Text.hexDigits 4 n).map Char.toUpper).all Text.isHex = true ∧
        Text.ofHex ((Text.hexDigits 4 n).map Char.toUpper) = n := by
    decide +kernel
  have hcode : c.toNat < 128 := by
    simp only [isControl, Bool.or_eq_true, Bool.and_eq_true, decide_eq_true_eq, beq_iff_eq] at h
    omega
  obtain ⟨hlength, hhex, hvalue⟩ := hall c.toNat hcode
  have hsmall : c.toNat < 0xD800 := by omega
  simp [Quoted.codePoint, List.take_left' hlength, List.drop_left' hlength, hlength, hhex, hvalue,
    hsmall]

/-- How a character of a basic string is written: as the code behind a backslash, or as itself. -/
inductive Escaped (inBlock : Bool) (run : Nat) (c : Char) : List Char → Prop
  | code {first : Char} {more : List Char} (hfirst : isSpace first = false)
      (hbreak : first ≠ '\n' ∧ first ≠ '\r')
      (h : ∀ tail, Quoted.escape (first :: more ++ tail) = some (c, tail)) :
      Escaped inBlock run c ('\\' :: first :: more)
  | quote (hc : c = '"') (h : inBlock = true ∧ run < 2) : Escaped inBlock run c ['"']
  | newline (hc : c = '\n') (h : inBlock = true) : Escaped inBlock run c ['\n']
  | plain (hquote : c ≠ '"') (hslash : c ≠ '\\') (h : isPlain c = true) :
      Escaped inBlock run c [c]

theorem escaped_escape (inBlock : Bool) (run : Nat) (c : Char) :
    Escaped inBlock run c (escape inBlock run c) := by
  have hshort {first : Char} (hfirst : isSpace first = false)
      (hbreak : first ≠ '\n' ∧ first ≠ '\r')
      (h : ∀ tail, Quoted.escape (first :: tail) = some (c, tail)) :
      Escaped inBlock run c ['\\', first] := .code hfirst hbreak h
  rw [escape]
  split
  case isTrue hc =>
    split
    case isTrue h => exact .quote hc (by simpa using h)
    case isFalse => exact hshort (by decide) (by decide) fun _ => by rw [hc]; rfl
  case isFalse hquote =>
    split
    case isTrue hc => exact hshort (by decide) (by decide) fun _ => by rw [hc]; rfl
    case isFalse hslash =>
      split
      case isTrue hc =>
        obtain rfl : c = Char.ofNat 8 := Char.toNat_inj.1 hc
        exact hshort (by decide) (by decide) fun _ => rfl
      case isFalse =>
        split
        case isTrue hc => exact hshort (by decide) (by decide) fun _ => by rw [hc]; rfl
        case isFalse =>
          split
          case isTrue hc =>
            split
            case isTrue h => exact .newline hc h
            case isFalse => exact hshort (by decide) (by decide) fun _ => by rw [hc]; rfl
          case isFalse hline =>
            split
            case isTrue hc =>
              obtain rfl : c = Char.ofNat 12 := Char.toNat_inj.1 hc
              exact hshort (by decide) (by decide) fun _ => rfl
            case isFalse =>
              split
              case isTrue hc => exact hshort (by decide) (by decide) fun _ => by rw [hc]; rfl
              case isFalse =>
                split
                case isTrue h => exact .code (by decide) (by decide) (codePoint_of_isControl h)
                case isFalse h =>
                  exact .plain hquote hslash
                    (isPlain_of_isControl_eq_false (Bool.eq_false_iff.2 h) hline)

variable {fuel : Nat} {out cs rest : List Char}

theorem basicFrom_escaped (run : Nat) (out : List Char) (hfuel : cs.length < fuel) :
    Quoted.basicFrom fuel out (escaped false run cs ++ '"' :: rest) =
      some (String.ofList (out.reverse ++ cs), rest) := by
  induction cs generalizing run fuel out with
  | nil =>
      obtain ⟨fuel, rfl⟩ : ∃ n, fuel = n + 1 := ⟨fuel - 1, by grind⟩
      simp [escaped, Quoted.basicFrom]
  | cons c cs ih =>
      obtain ⟨fuel, rfl⟩ : ∃ n, fuel = n + 1 := ⟨fuel - 1, by grind⟩
      have hstep : Quoted.basicFrom (fuel + 1) out (escaped false run (c :: cs) ++ '"' :: rest) =
          Quoted.basicFrom fuel (c :: out)
            (escaped false (nextRun false run c) cs ++ '"' :: rest) := by
        have hc := escaped_escape false run c
        rw [escaped]
        generalize escape false run c = text at hc ⊢
        cases hc with
        | code _ _ h => grind [Quoted.basicFrom]
        | quote _ h => simp at h
        | newline _ h => simp at h
        | plain hquote hslash h => grind [Quoted.basicFrom]
      rw [hstep, ih _ _ (by grind)]
      simp

theorem literalFrom_plain (out : List Char) (hplain : ∀ c ∈ cs, isPlain c = true)
    (hquote : '\'' ∉ cs) :
    Quoted.literalFrom out (cs ++ '\'' :: rest) =
      some (String.ofList (out.reverse ++ cs), rest) := by
  induction cs generalizing out with
  | nil => simp [Quoted.literalFrom]
  | cons c cs ih =>
      have hstep : Quoted.literalFrom out (c :: cs ++ '\'' :: rest) =
          Quoted.literalFrom (c :: out) (cs ++ '\'' :: rest) := by
        grind [Quoted.literalFrom]
      rw [hstep, ih _ (by grind) (by grind)]
      simp

theorem closeBlock_quotes {quote : Char} {k : Nat} (hk : k ≤ 2)
    (hrest : rest.head? ≠ some quote) :
    Quoted.closeBlock quote out (List.replicate k quote ++ rest) =
      (String.ofList (out.reverse ++ List.replicate k quote), rest) := by
  obtain rfl | rfl | rfl : k = 0 ∨ k = 1 ∨ k = 2 := by omega
  all_goals
    rcases rest with _ | ⟨a, _ | ⟨b, rest⟩⟩
    all_goals simp_all [Quoted.closeBlock, List.replicate]

section Blocks

variable {run : Nat} {c : Char}

/-- Behind a quote that stands for itself, two more stand only where the block ends. -/
theorem eq_replicate_of_two_quotes (hrun : 1 ≤ run) (hle : run ≤ 2)
    (h : ['"', '"'] <+: escaped true run cs ++ List.replicate 3 '"' ++ rest) :
    ∃ k, k + run ≤ 2 ∧ cs = List.replicate k '"' := by
  have hhead {run : Nat} {d : Char} {ds tail : List Char}
      (h : '"' :: tail <+: escaped true run (d :: ds) ++ List.replicate 3 '"' ++ rest) :
      d = '"' ∧ run < 2 ∧
        tail <+: escaped true (nextRun true run d) ds ++ List.replicate 3 '"' ++ rest := by
    have hd := escaped_escape true run d
    rw [escaped] at h
    generalize htext : escape true run d = text at hd h
    cases hd with
    | code => simp at h
    | quote hd hrun => exact ⟨hd, hrun.2, by simpa using h⟩
    | newline hd => simp at h
    | plain hquote => simp [hquote.symm] at h
  rcases cs with _ | ⟨d, ds⟩
  · exact ⟨0, by omega, rfl⟩
  · obtain ⟨rfl, hlt, hnext⟩ := hhead h
    obtain rfl : run = 1 := by omega
    rcases ds with _ | ⟨e, es⟩
    · exact ⟨1, Nat.le_refl 2, rfl⟩
    · have := (hhead hnext).2.1
      simp [nextRun] at this

theorem escaped_replicate {k : Nat} (hk : k + run ≤ 2) :
    escaped true run (List.replicate k '"') = List.replicate k '"' := by
  induction k generalizing run with
  | zero => rfl
  | succ k ih =>
      have hrun : run < 2 := by omega
      rw [List.replicate_succ, escaped]
      simp only [escape, nextRun, hrun, Bool.and_self, decide_true, if_true]
      rw [ih (by omega)]
      rfl

theorem replicate_append_three (quote : Char) (k : Nat) :
    List.replicate k quote ++ List.replicate 3 quote ++ rest =
      quote :: quote :: quote :: (List.replicate k quote ++ rest) := by
  rw [List.replicate_append_replicate, Nat.add_comm, ← List.replicate_append_replicate]
  rfl

/-- The quotes at the end of a block that stand for themselves are read together with the closing
ones. -/
theorem basicBlockFrom_replicate {k : Nat} (hk : k ≤ 2) (hfuel : 0 < fuel)
    (hrest : rest.head? ≠ some '"') :
    Quoted.basicBlockFrom fuel out (List.replicate k '"' ++ List.replicate 3 '"' ++ rest) =
      some (String.ofList (out.reverse ++ List.replicate k '"'), rest) := by
  obtain ⟨fuel, rfl⟩ : ∃ n, fuel = n + 1 := ⟨fuel - 1, by omega⟩
  rw [replicate_append_three]
  simp only [Quoted.basicBlockFrom]
  rw [closeBlock_quotes hk hrest]

theorem basicBlockFrom_quote {tail : List Char} (h : ¬ ['"', '"'] <+: tail) :
    Quoted.basicBlockFrom (fuel + 1) out ('"' :: tail) =
      Quoted.basicBlockFrom fuel ('"' :: out) tail := by
  rcases tail with _ | ⟨a, _ | ⟨b, tail⟩⟩
  · rfl
  · simp [Quoted.basicBlockFrom, Quoted.newline?, isPlain]
  · simp only [List.cons_prefix_cons, List.nil_prefix, and_true] at h
    rw [Quoted.basicBlockFrom]
    · simp [Quoted.newline?, isPlain]
    · grind
    · grind

theorem basicBlockFrom_code {first : Char} {more tail : List Char}
    (hfirst : isSpace first = false) (hbreak : first ≠ '\n' ∧ first ≠ '\r')
    (h : Quoted.escape (first :: more) = some (c, tail)) :
    Quoted.basicBlockFrom (fuel + 1) out ('\\' :: first :: more) =
      Quoted.basicBlockFrom fuel (c :: out) tail := by
  have hline : newline? ((first :: more).dropWhile isSpace) = none := by
    rw [List.dropWhile_cons_of_neg (by simp [hfirst])]
    unfold newline?
    grind
  simp only [Quoted.basicBlockFrom, hline, h]

theorem basicBlockFrom_plain {tail : List Char} (hquote : c ≠ '"') (hslash : c ≠ '\\')
    (h : isPlain c = true) :
    Quoted.basicBlockFrom (fuel + 1) out (c :: tail) =
      Quoted.basicBlockFrom fuel (c :: out) tail := by
  have hbreak : c ≠ '\n' ∧ c ≠ '\r' := by
    constructor <;> (rintro rfl; exact absurd h (by decide))
  have hline : newline? (c :: tail) = none := by unfold newline?; grind
  rw [Quoted.basicBlockFrom.eq_def]
  grind

theorem basicBlockFrom_escaped (hrun : run ≤ 2) (hfuel : cs.length < fuel)
    (hrest : rest.head? ≠ some '"') :
    Quoted.basicBlockFrom fuel out (escaped true run cs ++ List.replicate 3 '"' ++ rest) =
      some (String.ofList (out.reverse ++ cs), rest) := by
  induction cs generalizing run fuel out with
  | nil => exact basicBlockFrom_replicate (k := 0) (by omega) (by grind) hrest
  | cons c cs ih =>
      by_cases hend : ∃ k, k + run ≤ 2 ∧ c :: cs = List.replicate k '"'
      · obtain ⟨k, hk, heq⟩ := hend
        rw [heq, escaped_replicate hk]
        exact basicBlockFrom_replicate (by omega) (by grind) hrest
      · obtain ⟨fuel, rfl⟩ : ∃ n, fuel = n + 1 := ⟨fuel - 1, by grind⟩
        have hstep : Quoted.basicBlockFrom (fuel + 1) out
            (escaped true run (c :: cs) ++ List.replicate 3 '"' ++ rest) =
              Quoted.basicBlockFrom fuel (c :: out)
                (escaped true (nextRun true run c) cs ++ List.replicate 3 '"' ++ rest) := by
          have hc := escaped_escape true run c
          rw [escaped]
          generalize escape true run c = text at hc ⊢
          cases hc with
          | code hfirst hbreak h =>
              simpa using basicBlockFrom_code hfirst hbreak
                (h (escaped true (nextRun true run c) cs ++ List.replicate 3 '"' ++ rest))
          | quote hc h =>
              have hnext : nextRun true run c = run + 1 := by simp [nextRun, hc, h.2]
              rw [hnext, hc]
              refine basicBlockFrom_quote fun htwo => ?_
              obtain ⟨k, hk, rfl⟩ := eq_replicate_of_two_quotes (by omega) (by omega) htwo
              exact hend ⟨k + 1, by omega, by rw [hc]; rfl⟩
          | newline hc _ => subst hc; rfl
          | plain hquote hslash h =>
              exact basicBlockFrom_plain hquote hslash h
        have hnext : nextRun true run c ≤ 2 := by unfold nextRun; grind
        rw [hstep, ih hnext (by grind)]
        simp

theorem literalBlockFrom_replicate {k : Nat} (hk : k ≤ 2) (hfuel : 0 < fuel)
    (hrest : rest.head? ≠ some '\'') :
    Quoted.literalBlockFrom fuel out (List.replicate k '\'' ++ List.replicate 3 '\'' ++ rest) =
      some (String.ofList (out.reverse ++ List.replicate k '\''), rest) := by
  obtain ⟨fuel, rfl⟩ : ∃ n, fuel = n + 1 := ⟨fuel - 1, by omega⟩
  rw [replicate_append_three]
  simp only [Quoted.literalBlockFrom]
  rw [closeBlock_quotes hk hrest]

theorem literalBlockFrom_cons {tail : List Char} (hplain : isPlain c = true ∨ c = '\n')
    (h : c = '\'' → ¬ ['\'', '\''] <+: tail) :
    Quoted.literalBlockFrom (fuel + 1) out (c :: tail) =
      Quoted.literalBlockFrom fuel (c :: out) tail := by
  rw [Quoted.literalBlockFrom]
  · rcases hplain with hplain | rfl
    · have hbreak : c ≠ '\n' ∧ c ≠ '\r' := by
        constructor <;> (rintro rfl; exact absurd hplain (by decide))
      have hline : newline? (c :: tail) = none := by unfold newline?; grind
      simp [hline, hplain]
    · rfl
  · rintro rest hc rfl
    exact h hc (by simp)

theorem literalBlockFrom_quotes (hplain : ∀ c ∈ cs, isPlain c = true ∨ c = '\n')
    (hquotes : ¬ List.replicate 3 '\'' <:+: cs) (hfuel : cs.length < fuel)
    (hrest : rest.head? ≠ some '\'') :
    Quoted.literalBlockFrom fuel out (cs ++ List.replicate 3 '\'' ++ rest) =
      some (String.ofList (out.reverse ++ cs), rest) := by
  induction cs generalizing fuel out with
  | nil => exact literalBlockFrom_replicate (k := 0) (by omega) (by grind) hrest
  | cons c cs ih =>
      by_cases hend : ∃ k ≤ 2, c :: cs = List.replicate k '\''
      · obtain ⟨k, hk, heq⟩ := hend
        rw [heq]
        exact literalBlockFrom_replicate hk (by grind) hrest
      · obtain ⟨fuel, rfl⟩ : ∃ n, fuel = n + 1 := ⟨fuel - 1, by grind⟩
        have hstep : Quoted.literalBlockFrom (fuel + 1) out
            (c :: cs ++ List.replicate 3 '\'' ++ rest) =
              Quoted.literalBlockFrom fuel (c :: out) (cs ++ List.replicate 3 '\'' ++ rest) := by
          refine literalBlockFrom_cons (hplain c (by grind)) fun hc htwo => ?_
          rcases cs with _ | ⟨d, _ | ⟨e, cs⟩⟩
          · exact hend ⟨1, by omega, by rw [hc]; rfl⟩
          · obtain rfl : '\'' = d := by simpa [List.replicate] using htwo
            exact hend ⟨2, by omega, by rw [hc]; rfl⟩
          · obtain ⟨rfl, rfl⟩ : '\'' = d ∧ '\'' = e := by simpa [List.replicate] using htwo
            have hthree : List.replicate 3 '\'' <+: c :: '\'' :: '\'' :: cs := by
              simp [hc, List.replicate]
            exact hquotes hthree.isInfix
        rw [hstep, ih (by grind) (fun h => hquotes (h.trans (List.suffix_cons c cs).isInfix))
          (by grind)]
        simp

end Blocks

def extendRun (c : Char) (runs : Nat × Nat) (d : Char) : Nat × Nat :=
  if d = c then (max runs.1 (runs.2 + 1), runs.2 + 1) else (runs.1, 0)

theorem longestRun_eq (c : Char) (cs : List Char) :
    longestRun c cs = (cs.foldl (extendRun c) (0, 0)).1 := rfl

theorem le_foldl_extendRun (c : Char) (cs : List Char) (runs : Nat × Nat) :
    runs.1 ≤ (cs.foldl (extendRun c) runs).1 := by
  induction cs generalizing runs with
  | nil => exact Nat.le_refl _
  | cons d cs ih =>
      refine Nat.le_trans ?_ (ih (extendRun c runs d))
      unfold extendRun
      grind

theorem foldl_extendRun_replicate (c : Char) (k : Nat) (runs : Nat × Nat) :
    runs.2 + k ≤ ((List.replicate k c).foldl (extendRun c) runs).1 ∨ k = 0 := by
  induction k generalizing runs with
  | zero => exact .inr rfl
  | succ k ih =>
      left
      rw [List.replicate_succ, List.foldl_cons]
      have hstep : extendRun c runs c = (max runs.1 (runs.2 + 1), runs.2 + 1) := by simp [extendRun]
      have hbest := le_foldl_extendRun c (List.replicate k c) (extendRun c runs c)
      have hrest := ih (extendRun c runs c)
      grind

theorem le_longestRun {c : Char} {k : Nat} (h : List.replicate k c <:+: cs) :
    k ≤ longestRun c cs := by
  obtain ⟨before, behind, rfl⟩ := h
  rw [longestRun_eq, List.foldl_append, List.foldl_append]
  have hrun := foldl_extendRun_replicate c k (before.foldl (extendRun c) (0, 0))
  have hbest := le_foldl_extendRun c behind
    ((List.replicate k c).foldl (extendRun c) (before.foldl (extendRun c) (0, 0)))
  omega

theorem not_mem_of_longestRun_eq_zero {c : Char} (h : longestRun c cs = 0) : c ∉ cs := by
  intro hmem
  obtain ⟨before, behind, rfl⟩ := List.append_of_mem hmem
  have hone : 1 ≤ longestRun c (before ++ c :: behind) :=
    le_longestRun ⟨before, behind, by simp⟩
  omega

theorem read_eq_readLine {text : List Char} (h : ∀ q, ¬ List.replicate 3 q <+: text) :
    Quoted.read fuel text = Quoted.readLine fuel text := by
  rw [Quoted.read]
  · rintro tail rfl
    exact h '"' (by simp [List.replicate])
  · rintro tail rfl
    exact h '\'' (by simp [List.replicate])

theorem read_basic (hfuel : cs.length < fuel) (hrest : rest.head? ≠ some '"') :
    Quoted.read fuel (basic cs ++ rest) = some (String.ofList cs, rest) := by
  have hopen : ∀ q, ¬ List.replicate 3 q <+: basic cs ++ rest := by
    intro q hthree
    rcases cs with _ | ⟨c, cs⟩
    · simp only [basic, escaped, List.replicate] at hthree
      rcases rest <;> simp at hthree
      grind
    · have hc := escaped_escape false 0 c
      rw [basic, escaped] at hthree
      generalize escape false 0 c = text at hc hthree
      cases hc with
      | code => simp [List.replicate] at hthree; grind
      | quote _ h => simp at h
      | newline _ h => simp at h
      | plain hquote => simp [List.replicate] at hthree; grind
  rw [read_eq_readLine hopen]
  simpa [basic, Quoted.readLine] using basicFrom_escaped 0 [] hfuel

theorem read_literal (hplain : ∀ c ∈ cs, isPlain c = true) (hquote : '\'' ∉ cs)
    (hcs : cs ≠ []) :
    Quoted.read fuel (literal cs ++ rest) = some (String.ofList cs, rest) := by
  have hopen : ∀ q, ¬ List.replicate 3 q <+: literal cs ++ rest := by
    intro q hthree
    rcases cs with _ | ⟨c, cs⟩
    · exact hcs rfl
    · simp [literal, List.replicate] at hthree; grind
  rw [read_eq_readLine hopen]
  simpa [literal, Quoted.readLine] using literalFrom_plain [] hplain hquote

theorem skipFirstBreak_body {newline : Bool} {body : List Char}
    (h : newline = false → body.head? ≠ some '\n' ∧ body.head? ≠ some '\r') :
    Quoted.skipFirstBreak ((if newline then ['\n'] else []) ++ body) = body := by
  cases newline with
  | true => rfl
  | false =>
      have hline : newline? body = none := by unfold newline?; grind
      simp [Quoted.skipFirstBreak, hline]

theorem read_basicBlock {newline : Bool} (hnewline : newline = false → '\n' ∉ cs)
    (hfuel : cs.length < fuel) (hrest : rest.head? ≠ some '"') :
    Quoted.read fuel (block '"' newline (escaped true 0 cs) ++ rest) =
      some (String.ofList cs, rest) := by
  have hhead : newline = false →
      (escaped true 0 cs ++ List.replicate 3 '"' ++ rest).head? ≠ some '\n' ∧
        (escaped true 0 cs ++ List.replicate 3 '"' ++ rest).head? ≠ some '\r' := by
    intro h
    rcases cs with _ | ⟨c, cs⟩
    · simp [escaped, List.replicate]
    · have hc := escaped_escape true 0 c
      rw [escaped]
      generalize escape true 0 c = text at hc ⊢
      cases hc with
      | code => simp
      | quote => simp
      | newline hc => exact absurd (by simp [hc]) (hnewline h)
      | plain _ _ hplain =>
          simp only [List.cons_append, List.head?_cons]
          constructor <;> (rintro ⟨rfl⟩; exact absurd hplain (by decide))
  have hread : Quoted.read fuel (block '"' newline (escaped true 0 cs) ++ rest) =
      Quoted.basicBlockFrom fuel [] (Quoted.skipFirstBreak ((if newline then ['\n'] else []) ++
        (escaped true 0 cs ++ List.replicate 3 '"' ++ rest))) := by
    simp [block, List.replicate, Quoted.read]
  rw [hread, skipFirstBreak_body hhead, basicBlockFrom_escaped (by omega) hfuel hrest]
  rfl

theorem read_literalBlock {newline : Bool} (hnewline : newline = false → '\n' ∉ cs)
    (hplain : ∀ c ∈ cs, isPlain c = true ∨ c = '\n')
    (hquotes : ¬ List.replicate 3 '\'' <:+: cs) (hfuel : cs.length < fuel)
    (hrest : rest.head? ≠ some '\'') :
    Quoted.read fuel (block '\'' newline cs ++ rest) = some (String.ofList cs, rest) := by
  have hhead : newline = false → (cs ++ List.replicate 3 '\'' ++ rest).head? ≠ some '\n' ∧
      (cs ++ List.replicate 3 '\'' ++ rest).head? ≠ some '\r' := by
    intro h
    rcases cs with _ | ⟨c, cs⟩
    · simp [List.replicate]
    · simp only [List.cons_append, List.head?_cons]
      have hc := hplain c List.mem_cons_self
      have hreturn : isPlain '\r' = false := by decide
      grind
  have hread : Quoted.read fuel (block '\'' newline cs ++ rest) =
      Quoted.literalBlockFrom fuel [] (Quoted.skipFirstBreak ((if newline then ['\n'] else []) ++
        (cs ++ List.replicate 3 '\'' ++ rest))) := by
    simp [block, List.replicate, Quoted.read]
  rw [hread, skipFirstBreak_body hhead, literalBlockFrom_quotes hplain hquotes hfuel hrest]
  rfl

theorem not_mem_newline (h : (contentOf cs).newline = false) : '\n' ∉ cs := by
  simp only [contentOf, List.any_eq_false, beq_iff_eq] at h
  exact fun hmem => h '\n' hmem rfl

theorem plain_of_control (h : (contentOf cs).control = false) :
    ∀ c ∈ cs, isPlain c = true ∨ c = '\n' := by
  intro c hc
  simp only [contentOf, List.any_eq_false] at h
  by_cases hline : c = '\n'
  · exact .inr hline
  · exact .inl (isPlain_of_isControl_eq_false (Bool.eq_false_iff.2 (h c hc)) hline)

/-- A quoted string is read as the string, whichever notation it took. -/
theorem read_quotedChars (hfuel : cs.length < fuel) (hdouble : rest.head? ≠ some '"')
    (hsingle : rest.head? ≠ some '\'') :
    Quoted.read fuel (quotedChars cs ++ rest) = some (String.ofList cs, rest) := by
  have hbasic := read_basic hfuel hdouble
  have hblock (newline : Bool) (h : newline = false → '\n' ∉ cs) :=
    read_basicBlock h hfuel hdouble
  rw [quotedChars]
  split
  case isTrue =>
    split
    case isTrue => exact hblock true (by simp)
    case isFalse => exact hbasic
  case isFalse hcontrol =>
    have hplain := plain_of_control (Bool.eq_false_iff.2 hcontrol)
    split
    case isTrue => exact hbasic
    case isFalse hmarked =>
      split
      case isTrue hliteral =>
        obtain ⟨hnone, hline⟩ :
            (contentOf cs).singleRun = 0 ∧ (contentOf cs).newline = false := by
          simpa using hliteral
        refine read_literal (fun c hc => ?_) (not_mem_of_longestRun_eq_zero hnone) ?_
        · exact (hplain c hc).resolve_right fun heq => not_mem_newline hline (heq ▸ hc)
        · rintro rfl
          exact hmarked (by decide)
      case isFalse =>
        split
        case isTrue => exact hblock (contentOf cs).newline not_mem_newline
        case isFalse =>
          split
          case isTrue hruns =>
            refine read_literalBlock not_mem_newline hplain (fun hthree => ?_) hfuel hsingle
            exact absurd (le_longestRun hthree) (Nat.not_le.2 (Nat.lt_succ_of_le hruns))
          case isFalse =>
            split
            case isTrue => exact hblock true (by simp)
            case isFalse => exact hbasic

theorem length_le_escaped (inBlock : Bool) (run : Nat) (cs : List Char) :
    cs.length ≤ (escaped inBlock run cs).length := by
  induction cs generalizing run with
  | nil => exact Nat.zero_le _
  | cons c cs ih =>
      have hpos : 1 ≤ (escape inBlock run c).length := by
        have hc := escaped_escape inBlock run c
        generalize escape inBlock run c = text at hc
        cases hc <;> simp
      have hrest := ih (nextRun inBlock run c)
      rw [escaped, List.length_append, List.length_cons]
      omega

theorem quotedChars_eq_cons (cs : List Char) :
    ∃ q tail, quotedChars cs = q :: tail ∧ (q = '"' ∨ q = '\'') ∧ cs.length ≤ tail.length := by
  have hescaped (inBlock : Bool) := length_le_escaped inBlock 0 cs
  have hnotation : quotedChars cs = basic cs ∨ quotedChars cs = literal cs ∨
      ∃ q newline body, quotedChars cs = block q newline body ∧ (q = '"' ∨ q = '\'') ∧
        cs.length ≤ body.length := by
    unfold quotedChars
    grind
  rcases hnotation with h | h | ⟨q, newline, body, h, hq, hlength⟩
  · exact ⟨'"', _, h, .inl rfl, by simpa using Nat.le_succ_of_le (hescaped false)⟩
  · exact ⟨'\'', _, h, .inr rfl, by simp⟩
  · exact ⟨q, _, h, hq, by simp; omega⟩

theorem length_le_key (s : String) : s.length ≤ (key s).length := by
  have hbasic : s.length ≤ (basic s.toList).length := by
    have h := length_le_escaped false 0 s.toList
    simp only [basic, String.length_toList, List.length_cons, List.length_append] at h ⊢
    omega
  rw [key]
  split
  · exact Nat.le_refl _
  · split
    · simpa using hbasic
    · split
      · simp [literal]; omega
      · simpa using hbasic

theorem keyPart_key {s : String} (hfuel : s.length < fuel)
    (hrest : ∀ c ∈ rest.head?, Toml.isBare c = false) :
    keyPart fuel ((key s).toList ++ rest) = some (s, rest) := by
  have hbasic : keyPart fuel (basic s.toList ++ rest) = some (s, rest) := by
    rw [← String.length_toList] at hfuel
    simpa [keyPart, basic, Quoted.readLine] using basicFrom_escaped 0 [] hfuel
  rw [key]
  split
  case isTrue hbare =>
    obtain ⟨hcs, hall⟩ : s.toList ≠ [] ∧ ∀ c ∈ s.toList, Toml.isBare c = true := by
      simpa [isBare, Toml.isBare] using hbare
    obtain ⟨c, cs, heq⟩ := List.exists_cons_of_ne_nil hcs
    have hc : Toml.isBare c = true := hall c (by simp [heq])
    have hnoquote : c ≠ '"' ∧ c ≠ '\'' := by
      constructor <;> (rintro rfl; exact absurd hc (by decide))
    have htake := Text.takeWhile_append_stop hall hrest
    have hdrop := Text.dropWhile_append_stop hall hrest
    rw [heq] at htake hdrop ⊢
    rw [List.cons_append] at htake hdrop ⊢
    rw [keyPart]
    simp only [hnoquote, hc, htake, hdrop, decide_false, Bool.or_self, if_true]
    rw [← heq, String.ofList_toList]
    rfl
  case isFalse =>
    split
    case isTrue => rw [String.toList_ofList, hbasic]
    case isFalse =>
      split
      case isTrue hliteral =>
        obtain ⟨⟨hcontrol, hline⟩, hnone⟩ : ((contentOf s.toList).control = false ∧
            (contentOf s.toList).newline = false) ∧ (contentOf s.toList).singleRun = 0 := by
          simpa using hliteral
        have hplain : ∀ c ∈ s.toList, isPlain c = true := fun c hc =>
          (plain_of_control hcontrol c hc).resolve_right fun heq =>
            not_mem_newline hline (heq ▸ hc)
        rw [String.toList_ofList]
        simpa [keyPart, literal, Quoted.readLine] using
          literalFrom_plain [] hplain (not_mem_of_longestRun_eq_zero hnone)
      case isFalse => rw [String.toList_ofList, hbasic]

end TracerSettings.Toml.Printer
