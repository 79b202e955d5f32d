import TracerSettings.Proofs.Toml.Rest

namespace TracerSettings.Toml

variable {cs : List Char}

namespace Quoted

variable {fuel fuel' : Nat}

theorem basicFrom_fuel {out : List Char} (h : cs.length < fuel) (h' : cs.length < fuel') :
    basicFrom fuel out cs = basicFrom fuel' out cs := by
  induction fuel generalizing fuel' out cs with
  | zero => omega
  | succ fuel ih =>
      cases fuel' with
      | zero => omega
      | succ fuel' =>
          unfold basicFrom
          grind

theorem skipLines_fuel (h : cs.length < fuel) (h' : cs.length < fuel') :
    skipLines fuel cs = skipLines fuel' cs := by
  induction fuel generalizing fuel' cs with
  | zero => omega
  | succ fuel ih =>
      cases fuel' with
      | zero => omega
      | succ fuel' =>
          unfold skipLines
          grind

theorem basicBlockFrom_fuel {out : List Char} (h : cs.length < fuel) (h' : cs.length < fuel') :
    basicBlockFrom fuel out cs = basicBlockFrom fuel' out cs := by
  induction fuel generalizing fuel' out cs with
  | zero => omega
  | succ fuel ih =>
      cases fuel' with
      | zero => omega
      | succ fuel' =>
          unfold basicBlockFrom
          split
          · rfl
          · rename_i rest
            split
            -- The white space behind a backslash is skipped by steps of the same number.
            · rename_i next hnext
              have hlt : next.length < rest.length + 1 := by grind
              have hskip : skipLines fuel next = skipLines fuel' next :=
                skipLines_fuel (by grind) (by grind)
              rw [hskip]
              exact ih (by grind [length_skipLines_le]) (by grind [length_skipLines_le])
            · grind
          · grind
          · rfl

theorem literalBlockFrom_fuel {out : List Char} (h : cs.length < fuel) (h' : cs.length < fuel') :
    literalBlockFrom fuel out cs = literalBlockFrom fuel' out cs := by
  induction fuel generalizing fuel' out cs with
  | zero => omega
  | succ fuel ih =>
      cases fuel' with
      | zero => omega
      | succ fuel' =>
          unfold literalBlockFrom
          grind

theorem readLine_fuel (h : cs.length < fuel) (h' : cs.length < fuel') :
    readLine fuel cs = readLine fuel' cs := by
  unfold readLine
  grind [basicFrom_fuel]

theorem read_fuel (h : cs.length < fuel) (h' : cs.length < fuel') :
    read fuel cs = read fuel' cs := by
  unfold read
  grind [readLine_fuel, basicBlockFrom_fuel, literalBlockFrom_fuel, length_skipFirstBreak_le]

end Quoted

variable {length length' : Nat}

theorem Scalar.read_fuel (h : cs.length < length) (h' : cs.length < length') :
    Scalar.read length cs = Scalar.read length' cs := by
  unfold Scalar.read
  rw [Quoted.read_fuel h h']

theorem keyPart_fuel (h : cs.length < length) (h' : cs.length < length') :
    keyPart length cs = keyPart length' cs := by
  unfold keyPart
  rw [Quoted.readLine_fuel h h']

theorem keyFrom_fuel {parts : Nat} {seen : List String} (h : cs.length < length)
    (h' : cs.length < length') : keyFrom length parts seen cs = keyFrom length' parts seen cs := by
  induction parts generalizing seen cs with
  | zero => rfl
  | succ parts ih =>
      simp only [keyFrom, Option.bind_eq_bind]
      have hspace := length_skipSpace_le cs
      rw [keyPart_fuel (Nat.lt_of_le_of_lt hspace h) (Nat.lt_of_le_of_lt hspace h')]
      refine Option.bind_congr fun r hpart => ?_
      have hrest : r.2.length ≤ (skipSpace cs).length := length_keyPart_le hpart
      split
      · rename_i rest hdot
        have hlt : rest.length < cs.length := by grind
        exact ih (Nat.lt_trans hlt h) (Nat.lt_trans hlt h')
      · rfl

theorem key_fuel (h : cs.length < length) (h' : cs.length < length') :
    key length cs = key length' cs := by
  unfold key
  rw [keyFrom_fuel h h']

theorem arrayFrom_fuel {item item' : Quoted.Read Value} {fuel fuel' : Nat} {seen : List Value}
    (hitem : ∀ cs', cs'.length ≤ cs.length → item cs' = item' cs')
    (hrest : ∀ {cs v rest}, item' cs = some (v, rest) → rest.length ≤ cs.length)
    (h : cs.length < fuel) (h' : cs.length < fuel') :
    arrayFrom item fuel seen cs = arrayFrom item' fuel' seen cs := by
  induction fuel generalizing fuel' seen cs with
  | zero => omega
  | succ fuel ih =>
      cases fuel' with
      | zero => omega
      | succ fuel' =>
          -- What comes after the comma is shorter, so both the items and the steps still agree.
          simp only [arrayFrom, Option.bind_eq_bind]
          refine Option.bind_congr fun cs₁ hgap => ?_
          have h₁ := length_skipGap_le hgap
          split
          · rfl
          · rw [hitem cs₁ h₁]
            refine Option.bind_congr fun r hv => Option.bind_congr fun cs₂ hgap' => ?_
            have h₂ : r.2.length ≤ cs₁.length := hrest hv
            have h₃ := length_skipGap_le hgap'
            split
            · rw [List.length_cons] at h₃
              exact ih (fun cs' hcs' => hitem cs' (by omega)) (by omega) (by omega)
            · rfl
            · rfl

theorem bracesFrom_fuel {item item' : Quoted.Read Value} {fuel fuel' : Nat}
    {fields : Outline.Fields} (hitem : ∀ cs', cs'.length ≤ cs.length → item cs' = item' cs')
    (hrest : ∀ {cs v rest}, item' cs = some (v, rest) → rest.length ≤ cs.length)
    (hlength : cs.length < length) (hlength' : cs.length < length')
    (h : cs.length < fuel) (h' : cs.length < fuel') :
    bracesFrom item length fuel fields cs = bracesFrom item' length' fuel' fields cs := by
  induction fuel generalizing fuel' fields cs with
  | zero => omega
  | succ fuel ih =>
      cases fuel' with
      | zero => omega
      | succ fuel' =>
          simp only [bracesFrom, Option.bind_eq_bind]
          rw [key_fuel hlength hlength']
          refine Option.bind_congr fun k hkey => Option.bind_congr fun cs₁ hmark => ?_
          have h₁ := length_key_le hkey
          have h₂ := Datetime.length_mark_lt hmark
          have h₃ := length_skipSpace_le cs₁
          rw [hitem (skipSpace cs₁) (by omega)]
          refine Option.bind_congr fun r hv => Option.bind_congr fun fields' _ => ?_
          have h₄ := hrest hv
          have h₅ := length_skipSpace_le r.2
          split
          · rename_i rest hcomma
            rw [hcomma, List.length_cons] at h₅
            exact ih (fun cs' hcs' => hitem cs' (by omega)) (by omega) (by omega) (by omega)
              (by omega)
          · rfl
          · rfl

theorem value_fuel {depth : Nat} (h : cs.length < length) (h' : cs.length < length') :
    value length depth cs = value length' depth cs := by
  induction depth generalizing cs with
  | zero =>
      simp only [value]
      exact Scalar.read_fuel h h'
  | succ depth ih =>
      have hitem : ∀ cs', cs'.length ≤ cs.length →
          value length depth cs' = value length' depth cs' :=
        fun cs' hcs' => ih (Nat.lt_of_le_of_lt hcs' h) (Nat.lt_of_le_of_lt hcs' h')
      unfold value
      split
      · rename_i rest
        rw [List.length_cons] at h h' hitem
        have hitems : arrayFrom (value length depth) length [] rest =
            arrayFrom (value length' depth) length' [] rest :=
          arrayFrom_fuel (fun cs' hcs' => hitem cs' (by omega)) length_value_le (by omega)
            (by omega)
        rw [hitems]
      · rename_i rest
        rw [List.length_cons] at h h' hitem
        have hfields : bracesFrom (value length depth) length length [] rest =
            bracesFrom (value length' depth) length' length' [] rest :=
          bracesFrom_fuel (fun cs' hcs' => hitem cs' (by omega)) length_value_le (by omega)
            (by omega) (by omega) (by omega)
        rw [hfields]
      · exact Scalar.read_fuel h h'

namespace Progress

variable {p : Progress}

theorem assignment_fuel (h : cs.length < length) (h' : cs.length < length') :
    p.assignment length cs = p.assignment length' cs := by
  simp only [assignment, Option.bind_eq_bind]
  rw [key_fuel h h']
  refine Option.bind_congr fun k hkey => Option.bind_congr fun cs₁ hmark => ?_
  have h₁ := length_key_le hkey
  have h₂ := Datetime.length_mark_lt hmark
  have h₃ := length_skipSpace_le cs₁
  have hvalue : value length nestingLimit (skipSpace cs₁) =
      value length' nestingLimit (skipSpace cs₁) := value_fuel (by omega) (by omega)
  rw [hvalue]

theorem tableHeader_fuel (h : cs.length < length) (h' : cs.length < length') :
    p.tableHeader length cs = p.tableHeader length' cs := by
  unfold tableHeader
  rw [key_fuel h h']

theorem itemHeader_fuel (h : cs.length < length) (h' : cs.length < length') :
    p.itemHeader length cs = p.itemHeader length' cs := by
  unfold itemHeader
  rw [key_fuel h h']

theorem line_fuel (h : cs.length < length) (h' : cs.length < length') :
    p.line length cs = p.line length' cs := by
  unfold line
  split
  · rfl
  · rfl
  · rfl
  · rfl
  · rename_i rest
    have hheader : p.itemHeader length rest = p.itemHeader length' rest :=
      itemHeader_fuel (by grind) (by grind)
    rw [hheader]
  · rename_i rest _
    have hheader : p.tableHeader length rest = p.tableHeader length' rest :=
      tableHeader_fuel (by grind) (by grind)
    rw [hheader]
  · rw [assignment_fuel h h']

theorem lines_fuel {fuel fuel' : Nat} (hlength : cs.length < length)
    (hlength' : cs.length < length') (h : cs.length < fuel) (h' : cs.length < fuel') :
    lines length fuel p cs = lines length' fuel' p cs := by
  induction fuel generalizing fuel' p cs with
  | zero => omega
  | succ fuel ih =>
      cases fuel' with
      | zero => omega
      | succ fuel' =>
          unfold lines
          have hspace := length_skipSpace_le cs
          split
          · rfl
          · rename_i hcs
            rw [line_fuel (Nat.lt_of_le_of_lt hspace hlength) (Nat.lt_of_le_of_lt hspace hlength')]
            split
            · rename_i q rest hline
              have hlt := length_line_lt hcs hline
              exact ih (by omega) (by omega) (by omega) (by omega)
            · rfl

end Progress

/-- Any number of steps that passes the length of a text reads its table. -/
theorem table?_ofList {length fuel : Nat} (hwhole : dropMark cs = cs) (hlength : cs.length < length)
    (h : cs.length < fuel) :
    table? (String.ofList cs) =
      (Progress.lines length fuel .start cs).map fun p => Outline.toTable p.root := by
  simp only [table?, String.toList_ofList, hwhole]
  rw [Progress.lines_fuel (Nat.lt_succ_self _) hlength (Nat.lt_succ_self _) h]

end TracerSettings.Toml
