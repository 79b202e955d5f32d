import TracerSettings.Proofs.Firsts
import TracerSettings.Proofs.Text.Character
import TracerSettings.Proofs.Tokens
import TracerSettings.Tokens

namespace TracerSettings.Choice

variable {α : Type} [DecidableEq α] [Choice α]

theorem value_foldl_addToken (r : Reading (List α)) (words : List String) :
    (words.foldl addToken r).value = (words.filterMap read?).foldl pushUnique r.value := by
  induction words generalizing r with
  | nil => rfl
  | cons word rest ih =>
      rw [List.foldl_cons, ih]
      cases h : (read? word : Option α) with
      | none =>
          rw [List.filterMap_cons_none h]
          simp only [addToken, h]
      | some a =>
          rw [List.filterMap_cons_some h]
          simp only [addToken, h, List.foldl_cons]

theorem rejected_foldl_addToken (r : Reading (List α)) (words : List String) :
    (words.foldl addToken r).rejected =
      r.rejected ++ (words.filter fun word => (read? word : Option α).isNone).map
        fun word => ⟨word, "unrecognized value"⟩ := by
  induction words generalizing r with
  | nil => exact (List.append_nil _).symm
  | cons word rest ih =>
      rw [List.foldl_cons, ih]
      cases h : (read? word : Option α) with
      | none =>
          rw [List.filter_cons_of_pos (by simp [h])]
          simp only [addToken, h, List.map_cons, List.append_assoc, List.singleton_append]
      | some a =>
          rw [List.filter_cons_of_neg (by simp [h])]
          simp only [addToken, h]

theorem value_readSet (delimiters : Delimiters) (raw : String) :
    (readSet delimiters raw : Reading (List α)).value =
      unique ((tokens delimiters raw).filterMap read?) := by
  rw [readSet, value_foldl_addToken, tokenSet, ← unique_filterMap_unique]
  rfl

theorem rejected_readSet (delimiters : Delimiters) (raw : String) :
    (readSet delimiters raw : Reading (List α)).rejected =
      (unique ((tokens delimiters raw).filter fun word => (read? word : Option α).isNone)).map
        fun word => ⟨word, "unrecognized value"⟩ := by
  rw [readSet, rejected_foldl_addToken, tokenSet, filter_unique]
  rfl

section Lists

omit [DecidableEq α]

/-- A text lists variants if it holds their names in any letter case, with at least one delimiter
between two of them and any number of delimiters at its ends. -/
inductive Lists (delimiters : Delimiters) : List α → List Char → Prop
  | last {a : α} {front word back : List Char}
      (hfront : ∀ c ∈ front, delimiters.contains c = true)
      (hword : word.map Char.toLower = (name a).toList)
      (hback : ∀ c ∈ back, delimiters.contains c = true) :
      Lists delimiters [a] (front ++ (word ++ back))
  | more {a : α} {as : List α} {front word rest : List Char} {d : Char}
      (hfront : ∀ c ∈ front, delimiters.contains c = true)
      (hword : word.map Char.toLower = (name a).toList) (hd : delimiters.contains d = true)
      (hrest : Lists delimiters as rest) :
      Lists delimiters (a :: as) (front ++ (word ++ d :: rest))

/-- Names that hold no delimiter and no blank, so that each is one token, and that are read back. -/
structure Plain (α : Type) [Choice α] (delimiters : Delimiters) : Prop where
  name_ne (a : α) : name a ≠ ""
  solid (a : α) : ∀ c ∈ (name a).toList, delimiters.contains c = false ∧ Text.isBlank c = false
  ofName?_name (a : α) : ofName? (name a) = some a

variable {delimiters : Delimiters} {a : α} {as : List α} {word cs : List Char}

theorem contains_toLower (delimiters : Delimiters) (c : Char) :
    delimiters.contains c.toLower = delimiters.contains c := by
  have hcomma : (c.toLower == ',') = (c == ',') := by
    have hcode (d : Char) : d = ',' ↔ d.toNat = 44 := Char.toNat_inj.symm
    rw [Bool.eq_iff_iff, beq_iff_eq, beq_iff_eq, hcode, hcode, Text.toNat_toLower]
    split <;> omega
  cases delimiters with
  | comma => exact hcomma
  | commaOrBlank => simp only [Delimiters.contains, hcomma, Text.isBlank_toLower]

theorem Plain.tokens_word (h : Plain α delimiters)
    (hword : word.map Char.toLower = (name a).toList) :
    tokens delimiters (String.ofList word) = [String.ofList word] := by
  apply tokens_of_word
  · rintro rfl
    exact h.name_ne a (String.toList_injective hword.symm)
  · intro c hc
    have hlower := h.solid a c.toLower (hword ▸ List.mem_map_of_mem hc)
    rwa [contains_toLower, Text.isBlank_toLower] at hlower

theorem Plain.read?_word (h : Plain α delimiters)
    (hword : word.map Char.toLower = (name a).toList) :
    read? (String.ofList word) = some a := by
  have hblank : ∀ c ∈ word, Text.isBlank c = false := by
    intro c hc
    have hlower := h.solid a c.toLower (hword ▸ List.mem_map_of_mem hc)
    rw [Text.isBlank_toLower] at hlower
    exact hlower.2
  have hname : Text.lower (Text.trim (String.ofList word)) = name a := by
    apply String.toList_injective
    rw [Text.toList_lower, Text.toList_trim, String.toList_ofList, Text.trimChars_of_forall hblank,
      hword]
  rw [read?, hname, h.ofName?_name]

theorem Lists.ne_nil (h : Lists delimiters as cs) : as ≠ [] := by
  cases h <;> exact List.cons_ne_nil _ _

theorem Lists.read?_tokens (h : Lists delimiters as cs) (hplain : Plain α delimiters) :
    (tokens delimiters (String.ofList cs)).map read? = as.map some := by
  induction h with
  | last hfront hword hback =>
      rw [tokens_append_of_front (padding_of_delimiters hfront),
        tokens_append_of_back (padding_of_delimiters hback), hplain.tokens_word hword]
      simp only [List.map_cons, List.map_nil, hplain.read?_word hword]
  | more hfront hword hd hrest ih =>
      rw [tokens_append_of_front (padding_of_delimiters hfront), tokens_append_cons hd,
        hplain.tokens_word hword]
      simp only [List.singleton_append, List.map_cons, hplain.read?_word hword, ih]

end Lists

end TracerSettings.Choice
