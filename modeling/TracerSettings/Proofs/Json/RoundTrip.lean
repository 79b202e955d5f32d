import TracerSettings.Proofs.Json.Scalars

namespace TracerSettings.Json

mutual

def data : Json → Data
  | .null => .null
  | .boolean b => .boolean b
  | .number literal => .number ((Reader.number? literal.toList).getD 0)
  | .text s => .text s
  | .array items => .array (dataItems items)
  | .object fields => .object (Toml.sortEntries (dataFields fields))

def dataItems : List Json → List Data
  | [] => []
  | item :: rest => data item :: dataItems rest

def dataFields : List (String × Json) → List (String × Data)
  | [] => []
  | (key, value) :: rest => (key, data value) :: dataFields rest

end

theorem dataItems_eq (items : List Json) : dataItems items = items.map data := by
  induction items with
  | nil => rfl
  | cons item rest ih => rw [dataItems, ih, List.map_cons]

theorem dataFields_eq (fields : List (String × Json)) :
    dataFields fields = fields.map fun field => (field.1, field.2.data) := by
  induction fields with
  | nil => rfl
  | cons field rest ih => rw [dataFields, ih, List.map_cons]

theorem prettyItems_eq (indent : String) (items : List Json) :
    prettyItems indent items = items.map (pretty indent) := by
  induction items with
  | nil => rfl
  | cons item rest ih => rw [prettyItems, ih, List.map_cons]

theorem prettyFields_eq (indent : String) (fields : List (String × Json)) :
    prettyFields indent fields =
      fields.map fun field => quote field.1 ++ ": " ++ pretty indent field.2 := by
  induction fields with
  | nil => rfl
  | cons field rest ih => rw [prettyFields, ih, List.map_cons]

/-- A tree whose numbers are written as JSON has them. -/
inductive Formed : Json → Prop
  | null : Formed .null
  | boolean (b : Bool) : Formed (.boolean b)
  | number {literal : String} {v : ℚ} (h : Reader.number? literal.toList = some v) :
      Formed (.number literal)
  | text (s : String) : Formed (.text s)
  | array {items : List Json} (h : ∀ item ∈ items, Formed item) : Formed (.array items)
  | object {fields : List (String × Json)} (h : ∀ field ∈ fields, Formed field.2) :
      Formed (.object fields)

namespace Reader

variable {fuel depth : Nat} {rest : List Char}

theorem skipSpace_blanks {blanks : List Char} (h : ∀ c ∈ blanks, isSpace c = true)
    (cs : List Char) : skipSpace (blanks ++ cs) = skipSpace cs :=
  List.dropWhile_append_of_pos h

theorem skipSpace_cons {c : Char} (h : isSpace c = false) (cs : List Char) :
    skipSpace (c :: cs) = c :: cs := by
  simp [skipSpace, h]

def Ends (rest : List Char) : Prop := ∀ c ∈ rest.head?, isNumeric c = false

theorem value_blanks {blanks : List Char} (h : ∀ c ∈ blanks, isSpace c = true) (cs : List Char) :
    value fuel depth (blanks ++ cs) = value fuel depth cs := by
  cases depth with
  | zero => rfl
  | succ depth => rw [value, value, skipSpace_blanks h]

theorem value_scalar {c : Char} {cs : List Char} (hspace : isSpace c = false) (harray : c ≠ '[')
    (hobject : c ≠ '\x7b') : value fuel (depth + 1) (c :: cs) = scalar fuel (c :: cs) := by
  rw [value, skipSpace_cons hspace]
  split
  case h_1 heq => exact absurd (List.cons.inj heq).1 harray
  case h_2 heq => exact absurd (List.cons.inj heq).1 hobject
  case h_3 => rfl

theorem scalar_number {literal : List Char} {v : ℚ} (h : number? literal = some v)
    (hrest : Ends rest) : scalar fuel (literal ++ rest) = some (.number v, rest) := by
  have hall := isNumeric_of_number? h
  have htake := Text.takeWhile_append_stop hall hrest
  have hdrop := Text.dropWhile_append_stop hall hrest
  obtain ⟨c, cs, rfl⟩ := List.exists_cons_of_ne_nil (ne_nil_of_number? h)
  have hc := hall c List.mem_cons_self
  rw [List.cons_append] at htake hdrop ⊢
  rw [scalar, htake, hdrop, h]
  · rfl
  -- No word and no string begins as a number does.
  all_goals
    intro _ heq
    rw [(List.cons.inj heq).1] at hc
    cases hc

open Toml.Quoted (Read)

section Lines

variable {α β : Type} {entry : Read α} {closing : Char} {text : β → List Char} {result : β → α}

theorem entriesFrom_intercalate {b : β} {items : List β} {indent : List Char}
    (hclosing : isSpace closing = false) (hcomma : closing ≠ ',')
    (hindent : ∀ c ∈ indent, isSpace c = true)
    (h : ∀ b' ∈ b :: items, ∀ rest, Ends rest → entry (text b' ++ rest) = some (result b', rest))
    (hfuel : items.length < fuel) (rest : List Char) :
    entriesFrom entry closing fuel
        ([','].intercalate ((b :: items).map text) ++ ('\n' :: indent ++ closing :: rest)) =
      some ((b :: items).map result, rest) := by
  have hskip : skipSpace ('\n' :: indent ++ closing :: rest) = closing :: rest := by
    rw [skipSpace_blanks (List.forall_mem_cons.2 ⟨rfl, hindent⟩), skipSpace_cons hclosing]
  have hlast : Ends ('\n' :: indent ++ closing :: rest) := by simp [Ends, isNumeric]
  generalize '\n' :: indent ++ closing :: rest = behind at hskip hlast ⊢
  induction items generalizing b fuel with
  | nil =>
      obtain ⟨fuel, rfl⟩ : ∃ n, fuel = n + 1 := ⟨fuel - 1, by omega⟩
      have hfirst := h b List.mem_cons_self _ hlast
      simp [entriesFrom, hfirst, hskip]
  | cons b' items ih =>
      obtain ⟨fuel, rfl⟩ : ∃ n, fuel = n + 1 := ⟨fuel - 1, by omega⟩
      have hothers := ih (fun d hd => h d (List.mem_cons_of_mem b hd))
        (Nat.lt_of_succ_lt_succ hfuel)
      have htext : [','].intercalate ((b :: b' :: items).map text) ++ behind =
          text b ++ ',' :: ([','].intercalate ((b' :: items).map text) ++ behind) := by
        simp [List.intercalate_cons_cons]
      generalize [','].intercalate ((b' :: items).map text) ++ behind = others at hothers htext
      have hfirst := h b List.mem_cons_self (',' :: others) (by simp [Ends, isNumeric])
      rw [htext, entriesFrom, hfirst]
      simp [skipSpace_cons (c := ',') rfl, hcomma.symm, hothers]

def line (indent body : List Char) : List Char := '\n' :: indent ++ [' ', ' '] ++ body

theorem bracketed_lines {items : List β} {indent : List Char} {body : β → List Char}
    (hclosing : isSpace closing = false) (hcomma : closing ≠ ',')
    (hindent : ∀ c ∈ indent, isSpace c = true)
    (hbody : ∀ b ∈ items, ∃ c tail, body b = c :: tail ∧ isSpace c = false ∧ c ≠ closing)
    (h : ∀ b ∈ items, ∀ rest, Ends rest →
      entry (line indent (body b) ++ rest) = some (result b, rest))
    (hitems : items ≠ []) (hfuel : items.length < fuel) (rest : List Char) :
    bracketed entry closing fuel ([','].intercalate (items.map fun b => line indent (body b)) ++
        ('\n' :: indent ++ closing :: rest)) =
      some (items.map result, rest) := by
  obtain ⟨b, items, rfl⟩ := List.exists_cons_of_ne_nil hitems
  have hread := entriesFrom_intercalate hclosing hcomma hindent h (Nat.lt_of_succ_lt hfuel) rest
  obtain ⟨c, tail, hb, hspace, hne⟩ := hbody b List.mem_cons_self
  obtain ⟨behind, htext⟩ : ∃ behind,
      [','].intercalate ((b :: items).map fun b => line indent (body b)) ++
        ('\n' :: indent ++ closing :: rest) = '\n' :: indent ++ [' ', ' '] ++ c :: behind := by
    rcases items with _ | ⟨b', items⟩
    · exact ⟨_, by simp [line, hb]; rfl⟩
    · exact ⟨_, by simp [line, hb, List.intercalate_cons_cons]; rfl⟩
  have hblanks : ∀ d ∈ '\n' :: indent ++ [' ', ' '], isSpace d = true := by
    simpa [or_imp, forall_and, isSpace] using hindent
  rw [htext] at hread ⊢
  rw [bracketed, skipSpace_blanks hblanks, skipSpace_cons hspace]
  dsimp only
  rw [if_neg hne, hread]

end Lines

theorem sum_length_le_intercalate {α : Type} (sep : List α) (ls : List (List α)) :
    (ls.map List.length).sum ≤ (sep.intercalate ls).length := by
  induction ls with
  | nil => simp
  | cons l ls ih =>
      rcases ls with _ | ⟨l', ls⟩
      · simp
      · rw [List.intercalate_cons_cons, List.length_append, List.length_append, List.map_cons,
          List.sum_cons]
        omega

end Reader

open Reader

theorem cons_intercalate (ls : List (List Char)) (h : ls ≠ []) :
    '\n' :: [',', '\n'].intercalate ls = [','].intercalate (ls.map ('\n' :: ·)) := by
  induction ls with
  | nil => exact absurd rfl h
  | cons l ls ih =>
      rcases ls with _ | ⟨l', ls⟩
      · simp
      · have htail := ih (List.cons_ne_nil l' ls)
        simp only [List.map_cons, List.intercalate_cons_cons] at htail ⊢
        simp [← htail]

section Blocks

variable {β : Type} {items : List β} {text : β → String}

theorem toList_block (indent opening closing : String) (h : items ≠ []) :
    (block indent opening closing (items.map text)).toList =
      opening.toList ++
        ([','].intercalate (items.map fun b => line indent.toList (text b).toList) ++
          ('\n' :: indent.toList ++ closing.toList)) := by
  have hempty : (items.map text).isEmpty = false := by simpa using h
  have hlines := cons_intercalate
    (items.map fun b => indent.toList ++ ' ' :: ' ' :: (text b).toList) (by simpa using h)
  have hmap : (items.map fun b => indent.toList ++ ' ' :: ' ' :: (text b).toList).map ('\n' :: ·) =
      items.map fun b => line indent.toList (text b).toList := by
    simp [line]
  rw [hmap] at hlines
  rw [← hlines]
  simp [block, hempty, String.toList_intercalate, Function.comp_def]

theorem lengths_block (items : List β) (text : β → String) (indent closing : String)
    {opening : String} (hopening : opening.length = 1) :
    items.length < (block indent opening closing (items.map text)).length ∧
      ∀ b ∈ items, (text b).length + 1 < (block indent opening closing (items.map text)).length := by
  by_cases h : items = []
  · subst h
    simp [block, hopening]
  · have hsum := sum_length_le_intercalate [',']
      (items.map fun b => line indent.toList (text b).toList)
    rw [List.map_map] at hsum
    have hline (b : β) : (List.length ∘ fun b => line indent.toList (text b).toList) b =
        (text b).length + indent.length + 3 := by
      simp only [line, Function.comp_apply, List.length_append, List.length_cons, List.length_nil,
        String.length_toList]
      omega
    have hcount := List.length_le_sum_of_one_le
      (items.map (List.length ∘ fun b => line indent.toList (text b).toList)) fun n hn => by
        obtain ⟨b, -, rfl⟩ := List.mem_map.1 hn
        rw [hline]
        omega
    rw [List.length_map] at hcount
    rw [← String.length_toList (s := block indent opening closing (items.map text)),
      toList_block indent opening closing h]
    simp only [List.length_append, String.length_toList, hopening, List.length_cons]
    refine ⟨by omega, fun b hb => ?_⟩
    have hle := List.le_sum_of_mem (List.mem_map_of_mem
      (f := List.length ∘ fun b => line indent.toList (text b).toList) hb)
    rw [hline] at hle
    omega

end Blocks

theorem exists_cons_block (indent opening closing : String) (lines : List String)
    {c : Char} (h : opening.toList = [c]) :
    ∃ tail, (block indent opening closing lines).toList = c :: tail := by
  rw [block]
  split
  case isTrue => exact ⟨_, by rw [String.toList_append, h]; rfl⟩
  case isFalse => exact ⟨_, by simp only [String.toList_append, h]; rfl⟩

theorem isSpace_of_isNumeric {c : Char} (h : isNumeric c = true) : isSpace c = false := by
  rw [Bool.eq_false_iff]
  intro hspace
  simp only [isSpace, Bool.or_eq_true, beq_iff_eq] at hspace
  rcases hspace with ((rfl | rfl) | rfl) | rfl <;> cases h

theorem Formed.exists_cons {j : Json} (h : j.Formed) (indent : String) :
    ∃ c tail, (pretty indent j).toList = c :: tail ∧ isSpace c = false ∧ c ≠ ']' := by
  cases h with
  | null => exact ⟨'n', ['u', 'l', 'l'], by simp [pretty], rfl, by decide⟩
  | boolean b =>
      cases b with
      | true => exact ⟨'t', ['r', 'u', 'e'], by simp [pretty], rfl, by decide⟩
      | false => exact ⟨'f', ['a', 'l', 's', 'e'], by simp [pretty], rfl, by decide⟩
  | @number literal v h =>
      obtain ⟨c, tail, htext⟩ := List.exists_cons_of_ne_nil (ne_nil_of_number? h)
      have hc := isNumeric_of_number? h c (by simp [htext])
      refine ⟨c, tail, htext, isSpace_of_isNumeric hc, ?_⟩
      rintro rfl
      cases hc
  | text s => exact ⟨'"', _, toList_quote s, rfl, by decide⟩
  | array =>
      obtain ⟨tail, htext⟩ := exists_cons_block indent "[" "]" _
        (String.toList_ofList : "[".toList = ['['])
      exact ⟨'[', tail, htext, rfl, by decide⟩
  | object =>
      obtain ⟨tail, htext⟩ := exists_cons_block indent "\x7b" "\x7d" _
        (String.toList_ofList : "\x7b".toList = ['\x7b'])
      exact ⟨'\x7b', tail, htext, rfl, by decide⟩

namespace Reader

variable {fuel depth : Nat} {rest : List Char}

def ReadsBack (fuel depth : Nat) (indent : String) (j : Json) : Prop :=
  ∀ rest, Ends rest → value fuel depth ((pretty indent j).toList ++ rest) = some (j.data, rest)

theorem value_text {s : String} (hfuel : s.length < fuel) (rest : List Char) :
    value fuel (depth + 1) ((quote s).toList ++ rest) = some (.text s, rest) := by
  rw [toList_quote, List.cons_append, value_scalar rfl (by decide) (by decide), scalar,
    List.append_assoc, List.singleton_append, stringFrom_quoted hfuel]
  simp

theorem value_openArray (cs : List Char) : value fuel (depth + 1) ('[' :: cs) =
    (bracketed (value fuel depth) ']' fuel cs).map fun (items, rest) => (.array items, rest) := rfl

theorem value_openObject (cs : List Char) : value fuel (depth + 1) ('\x7b' :: cs) =
    (bracketed (field fuel (value fuel depth)) '\x7d' fuel cs).map fun (fields, rest) =>
      (.object (Toml.sortEntries fields), rest) := rfl

section Nested

variable {indent : String} (hindent : ∀ c ∈ indent.toList, isSpace c = true)

include hindent

theorem isSpace_of_mem_inner : ∀ c ∈ (indent ++ "  ").toList, isSpace c = true := by
  simpa [or_imp, forall_and, isSpace] using hindent

theorem isSpace_of_mem_lead : ∀ c ∈ '\n' :: indent.toList ++ [' ', ' '], isSpace c = true := by
  simpa [or_imp, forall_and, isSpace] using hindent

theorem value_array {items : List Json} (hformed : ∀ item ∈ items, item.Formed)
    (h : ∀ item ∈ items, ReadsBack fuel depth (indent ++ "  ") item)
    (hfuel : items.length < fuel) : ReadsBack fuel (depth + 1) indent (.array items) := by
  intro rest hrest
  rw [pretty, prettyItems_eq, data, dataItems_eq]
  by_cases hitems : items = []
  · have htext : (block indent "[" "]" []).toList = ['[', ']'] := by simp [block]
    rw [hitems, List.map_nil, htext]
    rfl
  · have hread : bracketed (value fuel depth) ']' fuel ([','].intercalate (items.map fun item =>
        line indent.toList (pretty (indent ++ "  ") item).toList) ++
          ('\n' :: indent.toList ++ ']' :: rest)) = some (items.map data, rest) := by
      refine bracketed_lines rfl (by decide) hindent
        (fun item hitem => (hformed item hitem).exists_cons _) ?_ hitems hfuel rest
      intro item hitem rest hrest
      rw [line, List.append_assoc, value_blanks (isSpace_of_mem_lead hindent),
        h item hitem rest hrest]
    have htext : (block indent "[" "]" (items.map (pretty (indent ++ "  ")))).toList ++ rest =
        '[' :: ([','].intercalate (items.map fun item =>
          line indent.toList (pretty (indent ++ "  ") item).toList) ++
            ('\n' :: indent.toList ++ ']' :: rest)) := by
      rw [toList_block _ _ _ hitems]
      simp
    rw [htext, value_openArray, hread]
    rfl

theorem field_line {key : String} {j : Json} (hkey : key.length < fuel)
    (h : ReadsBack fuel depth (indent ++ "  ") j) (hrest : Ends rest) :
    field fuel (value fuel depth) (line indent.toList
        (quote key ++ ": " ++ pretty (indent ++ "  ") j).toList ++ rest) =
      some ((key, j.data), rest) := by
  have htext : (quote key ++ ": " ++ pretty (indent ++ "  ") j).toList ++ rest =
      '"' :: (key.toList.flatMap Json.escape ++
        '"' :: ':' :: ' ' :: ((pretty (indent ++ "  ") j).toList ++ rest)) := by
    simp [toList_quote]
  have hvalue : value fuel depth (' ' :: ((pretty (indent ++ "  ") j).toList ++ rest)) =
      some (j.data, rest) := by
    rw [← h rest hrest]
    exact value_blanks (by simp [isSpace] : ∀ c ∈ [' '], isSpace c = true) _
  have hstring := stringFrom_quoted hkey []
    (':' :: ' ' :: ((pretty (indent ++ "  ") j).toList ++ rest))
  rw [List.reverse_nil, List.nil_append, String.ofList_toList] at hstring
  rw [line, List.append_assoc, htext, field, skipSpace_blanks (isSpace_of_mem_lead hindent),
    skipSpace_cons rfl]
  simp [hstring, skipSpace_cons (c := ':') rfl, hvalue]

theorem value_object {fields : List (String × Json)}
    (h : ∀ field ∈ fields, ReadsBack fuel depth (indent ++ "  ") field.2)
    (hkeys : ∀ field ∈ fields, field.1.length < fuel)
    (hfuel : fields.length < fuel) : ReadsBack fuel (depth + 1) indent (.object fields) := by
  intro rest hrest
  rw [pretty, prettyFields_eq, data, dataFields_eq]
  by_cases hfields : fields = []
  · have htext : (block indent "\x7b" "\x7d" []).toList = ['\x7b', '\x7d'] := by simp [block]
    rw [hfields, List.map_nil, htext]
    rfl
  · have hread : bracketed (field fuel (value fuel depth)) '\x7d' fuel
        ([','].intercalate (fields.map fun field => line indent.toList
          (quote field.1 ++ ": " ++ pretty (indent ++ "  ") field.2).toList) ++
            ('\n' :: indent.toList ++ '\x7d' :: rest)) =
          some (fields.map fun field => (field.1, field.2.data), rest) := by
      refine bracketed_lines rfl (by decide) hindent (fun field _ => ?_) ?_ hfields hfuel rest
      · exact ⟨'"', _, by simp [toList_quote]; rfl, rfl, by decide⟩
      · intro field hfield rest hrest
        exact field_line hindent (hkeys field hfield) (h field hfield) hrest
    have htext : (block indent "\x7b" "\x7d" (fields.map fun field =>
        quote field.1 ++ ": " ++ pretty (indent ++ "  ") field.2)).toList ++ rest =
        '\x7b' :: ([','].intercalate (fields.map fun field => line indent.toList
          (quote field.1 ++ ": " ++ pretty (indent ++ "  ") field.2).toList) ++
            ('\n' :: indent.toList ++ '\x7d' :: rest)) := by
      rw [toList_block _ _ _ hfields]
      simp
    rw [htext, value_openObject, hread]
    rfl

end Nested

theorem readsBack_number {literal indent : String} {v : ℚ} (h : number? literal.toList = some v) :
    ReadsBack fuel (depth + 1) indent (.number literal) := by
  intro rest hrest
  have hread : scalar fuel (literal.toList ++ rest) = some (.number v, rest) :=
    scalar_number h hrest
  obtain ⟨c, cs, htext⟩ := List.exists_cons_of_ne_nil (ne_nil_of_number? h)
  have hc := isNumeric_of_number? h c (by simp [htext])
  have hbracket : c ≠ '[' ∧ c ≠ '\x7b' := by
    constructor <;> (rintro rfl; cases hc)
  rw [htext, List.cons_append] at hread
  rw [pretty, htext, List.cons_append, value_scalar (isSpace_of_isNumeric hc) hbracket.1 hbracket.2,
    hread, data, h]
  rfl

theorem readsBack_boolean (b : Bool) (indent : String) :
    ReadsBack fuel (depth + 1) indent (.boolean b) := by
  intro rest _
  cases b with
  | true =>
      rw [pretty, if_pos rfl, (String.toList_ofList : "true".toList = ['t', 'r', 'u', 'e'])]
      rfl
  | false =>
      rw [pretty, if_neg (by decide),
        (String.toList_ofList : "false".toList = ['f', 'a', 'l', 's', 'e'])]
      rfl

end Reader

theorem Formed.readsBack {j : Json} (h : j.Formed) {fuel depth : Nat} {indent : String}
    (hindent : ∀ c ∈ indent.toList, isSpace c = true) (hfuel : (pretty indent j).length < fuel)
    (hdepth : (pretty indent j).length ≤ depth) : ReadsBack fuel (depth + 1) indent j := by
  induction h generalizing indent depth with
  | null =>
      intro rest _
      rw [pretty, (String.toList_ofList : "null".toList = ['n', 'u', 'l', 'l'])]
      rfl
  | boolean b => exact readsBack_boolean b indent
  | number h => exact readsBack_number h
  | text s =>
      intro rest _
      have hs := length_lt_quote s
      rw [pretty] at hfuel ⊢
      exact value_text (by omega) rest
  | @array items h ih =>
      rw [pretty, prettyItems_eq] at hfuel hdepth
      obtain ⟨hcount, hline⟩ :=
        lengths_block items (pretty (indent ++ "  ")) indent "]" (rfl : "[".length = 1)
      obtain ⟨depth, rfl⟩ : ∃ n, depth = n + 1 := ⟨depth - 1, by omega⟩
      refine value_array hindent h (fun item hitem => ?_) (hcount.trans hfuel)
      have hlength := hline item hitem
      exact ih item hitem (isSpace_of_mem_inner hindent) (by omega) (by omega)
  | @object fields h ih =>
      rw [pretty, prettyFields_eq] at hfuel hdepth
      obtain ⟨hcount, hline⟩ := lengths_block fields
        (fun field => quote field.1 ++ ": " ++ pretty (indent ++ "  ") field.2) indent "\x7d"
        (rfl : "\x7b".length = 1)
      obtain ⟨depth, rfl⟩ : ∃ n, depth = n + 1 := ⟨depth - 1, by omega⟩
      have hfield (field : String × Json) (hmem : field ∈ fields) :
          field.1.length < fuel ∧ (pretty (indent ++ "  ") field.2).length < fuel ∧
            (pretty (indent ++ "  ") field.2).length ≤ depth := by
        have hlength := hline field hmem
        have hquote := length_lt_quote field.1
        rw [String.length_append, String.length_append] at hlength
        omega
      refine value_object hindent (fun field hmem => ?_) (fun field hmem => (hfield field hmem).1)
        (hcount.trans hfuel)
      obtain ⟨-, hvalue, hnested⟩ := hfield field hmem
      exact ih field hmem (isSpace_of_mem_inner hindent) hvalue hnested

/-- What is read of the text of a tree is what the tree says. -/
theorem read?_pretty {j : Json} (h : j.Formed) : read? (pretty "" j) = some j.data := by
  have hread : value ((pretty "" j).length + 1) ((pretty "" j).length + 1)
      ((pretty "" j).toList ++ []) = some (j.data, []) :=
    h.readsBack (by simp) (Nat.lt_succ_self _) le_rfl [] (by simp [Ends])
  rw [List.append_nil] at hread
  rw [read?, hread]
  rfl

end TracerSettings.Json
