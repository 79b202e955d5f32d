import TracerSettings.Proofs.Text.Blank
import TracerSettings.Proofs.Text.Cut
import TracerSettings.Tokens

namespace TracerSettings

theorem Text.pieces_intercalate_eq_flatMap {p : Char → Bool} {c : Char} (hc : p c = true)
    {words : List (List Char)} (hwords : words ≠ []) :
    pieces p ([c].intercalate words) = words.flatMap (pieces p) := by
  induction words with
  | nil => exact absurd rfl hwords
  | cons w words ih =>
      cases words with
      | nil => simp
      | cons w' words =>
          rw [List.intercalate_cons_cons, List.append_assoc, List.singleton_append,
            pieces_append_cons hc, ih (List.cons_ne_nil _ _)]
          rfl

theorem Delimiters.contains_comma (delimiters : Delimiters) : delimiters.contains ',' = true := by
  cases delimiters <;> rfl

theorem tokens_intercalate (delimiters : Delimiters) (texts : List String) :
    tokens delimiters (",".intercalate texts) = texts.flatMap (tokens delimiters) := by
  cases texts with
  | nil => rfl
  | cons text texts =>
      have hpieces : Text.pieces delimiters.contains (",".intercalate (text :: texts)).toList =
          ((text :: texts).map String.toList).flatMap (Text.pieces delimiters.contains) := by
        rw [String.toList_intercalate]
        exact Text.pieces_intercalate_eq_flatMap delimiters.contains_comma (by simp)
      rw [tokens, hpieces, List.filterMap_flatMap, List.flatMap_map]
      rfl

def Padding (gap : List Char) : Prop := ∀ c ∈ gap, c = ',' ∨ Text.isBlank c = true

theorem padding_of_delimiters {delimiters : Delimiters} {gap : List Char}
    (h : ∀ c ∈ gap, delimiters.contains c = true) : Padding gap := by
  intro c hc
  have hcontains := h c hc
  cases delimiters with
  | comma => exact .inl (beq_iff_eq.1 hcontains)
  | commaOrBlank => simpa only [Delimiters.contains, Bool.or_eq_true, beq_iff_eq] using hcontains

theorem padding_of_blank {gap : List Char} (h : ∀ c ∈ gap, Text.isBlank c = true) : Padding gap :=
  fun c hc => .inr (h c hc)

/-- A token is not empty, has no white space at its ends, and holds no delimiter. -/
structure IsToken (delimiters : Delimiters) (token : String) : Prop where
  ne_empty : token ≠ ""
  trimmed : Text.Trimmed token
  whole : ∀ c ∈ token.toList, delimiters.contains c = false

theorem isToken_of_mem_tokens {delimiters : Delimiters} {raw token : String}
    (h : token ∈ tokens delimiters raw) : IsToken delimiters token := by
  have hne := tokens_ne_empty h
  obtain ⟨piece, hpiece, htoken⟩ := List.mem_filterMap.1 h
  obtain ⟨rfl, -⟩ := Text.nonBlank_eq_some htoken
  refine ⟨hne, Text.trimmed_trim _, fun c hc => ?_⟩
  rw [Text.toList_trim, String.toList_ofList] at hc
  exact Text.false_of_mem_pieces hpiece c (Text.mem_of_mem_trimChars hc)

section Delimited

variable {delimiters : Delimiters} {d : Char} {front back word : List Char} {token : String}

theorem tokens_append_cons (hd : delimiters.contains d = true) (left right : List Char) :
    tokens delimiters (String.ofList (left ++ d :: right)) =
      tokens delimiters (String.ofList left) ++ tokens delimiters (String.ofList right) := by
  simp only [tokens, String.toList_ofList, Text.pieces_append_cons hd, List.filterMap_append]

theorem tokens_of_whole (hword : ∀ c ∈ word, delimiters.contains c = false) :
    tokens delimiters (String.ofList word) = (Text.nonBlank (String.ofList word)).toList := by
  have hpieces : Text.pieces delimiters.contains word = [word] := by
    have h := Text.pieces_append_of_forall hword []
    rwa [List.append_nil, Text.pieces_nil, List.headD_cons, List.append_nil, List.tail_cons] at h
  rw [tokens, String.toList_ofList, hpieces, List.filterMap_eq_flatMap_toList,
    List.flatMap_singleton]

theorem tokens_cons_of_padding {c : Char} (hc : c = ',' ∨ Text.isBlank c = true)
    (cs : List Char) :
    tokens delimiters (String.ofList (c :: cs)) = tokens delimiters (String.ofList cs) := by
  by_cases hd : delimiters.contains c = true
  · rw [← List.nil_append (c :: cs), tokens_append_cons hd]
    rfl
  · -- A comma is always a delimiter, so the character is a blank that its piece starts with.
    have hblank : ∀ b ∈ [c], Text.isBlank b = true := by
      refine List.forall_mem_singleton.2 (hc.resolve_left ?_)
      rintro rfl
      exact hd delimiters.contains_comma
    obtain ⟨piece, rest, hpieces⟩ :=
      List.exists_cons_of_ne_nil (Text.pieces_ne_nil delimiters.contains cs)
    have htrim : Text.trim (String.ofList (c :: piece)) = Text.trim (String.ofList piece) := by
      rw [Text.trim, Text.trim, String.toList_ofList, String.toList_ofList,
        ← Text.trimChars_append_of_front hblank piece, List.singleton_append]
    rw [tokens, tokens, String.toList_ofList, String.toList_ofList, Text.pieces_cons, if_neg hd,
      hpieces, List.headD_cons, List.tail_cons, List.filterMap_cons, List.filterMap_cons,
      Text.nonBlank, htrim, ← Text.nonBlank]

theorem tokens_append_of_front (hfront : Padding front) (cs : List Char) :
    tokens delimiters (String.ofList (front ++ cs)) = tokens delimiters (String.ofList cs) := by
  induction front with
  | nil => rfl
  | cons c front ih =>
      obtain ⟨hc, hfront⟩ := List.forall_mem_cons.1 hfront
      rw [List.cons_append, tokens_cons_of_padding hc, ih hfront]

theorem tokens_of_padding (hfront : Padding front) :
    tokens delimiters (String.ofList front) = [] := by
  rw [← List.append_nil front, tokens_append_of_front hfront]
  rfl

theorem tokens_concat_of_blank {c : Char} (hc : Text.isBlank c = true) (cs : List Char) :
    tokens delimiters (String.ofList (cs ++ [c])) = tokens delimiters (String.ofList cs) := by
  by_cases hd : delimiters.contains c = true
  · rw [tokens_append_cons hd]
    exact List.append_nil _
  · rw [Bool.not_eq_true] at hd
    induction cs using Text.separated_induction (p := delimiters.contains) with
    | whole cs hcs =>
        have htrim : Text.trim (String.ofList (cs ++ [c])) = Text.trim (String.ofList cs) := by
          rw [Text.trim, Text.trim, String.toList_ofList, String.toList_ofList,
            Text.trimChars_append_of_back (List.forall_mem_singleton.2 hc)]
        have hwhole : ∀ b ∈ cs ++ [c], delimiters.contains b = false :=
          List.forall_mem_append.2 ⟨hcs, List.forall_mem_singleton.2 hd⟩
        rw [tokens_of_whole hwhole, tokens_of_whole hcs, Text.nonBlank, htrim, ← Text.nonBlank]
    | cut left b right hleft hb ih =>
        rw [List.append_assoc, List.cons_append, tokens_append_cons hb, ih, tokens_append_cons hb]

theorem tokens_append_of_back (hback : Padding back) (cs : List Char) :
    tokens delimiters (String.ofList (cs ++ back)) = tokens delimiters (String.ofList cs) := by
  induction back generalizing cs with
  | nil => rw [List.append_nil]
  | cons c back ih =>
      obtain ⟨hc, hback⟩ := List.forall_mem_cons.1 hback
      rw [List.append_cons, ih hback]
      rcases hc with rfl | hblank
      · rw [tokens_append_cons delimiters.contains_comma]
        exact List.append_nil _
      · exact tokens_concat_of_blank hblank cs

theorem IsToken.tokens_eq (h : IsToken delimiters token) : tokens delimiters token = [token] := by
  have hnonBlank : Text.nonBlank token = some token := by
    rw [Text.nonBlank, Text.trim_eq_self_iff.2 h.trimmed, if_neg h.ne_empty]
  rw [← String.ofList_toList (s := token), tokens_of_whole h.whole, String.ofList_toList,
    hnonBlank]
  rfl

theorem tokens_of_nonBlank {raw value : String} (h : Text.nonBlank raw = some value) :
    tokens delimiters value = tokens delimiters raw := by
  obtain ⟨front, back, hfront, hback, hraw⟩ := Text.exists_eq_append_of_nonBlank h
  rw [← String.ofList_toList (s := raw), hraw, tokens_append_of_front (padding_of_blank hfront),
    tokens_append_of_back (padding_of_blank hback), String.ofList_toList]

theorem tokens_of_blank {raw : String} (h : Text.nonBlank raw = none) :
    tokens delimiters raw = [] := by
  rw [← String.ofList_toList (s := raw)]
  exact tokens_of_padding (padding_of_blank (Text.nonBlank_eq_none_iff.1 h))

theorem tokens_of_word (hne : word ≠ [])
    (hword : ∀ c ∈ word, delimiters.contains c = false ∧ Text.isBlank c = false) :
    tokens delimiters (String.ofList word) = [String.ofList word] := by
  apply IsToken.tokens_eq
  refine ⟨by simpa using hne, Text.trim_eq_self_iff.1 ?_, ?_⟩
  · rw [Text.trim, String.toList_ofList, Text.trimChars_of_forall fun c hc => (hword c hc).2]
  · rw [String.toList_ofList]
    exact fun c hc => (hword c hc).1

theorem tokens_trim (hblank : ∀ c, Text.isBlank c = true → delimiters.contains c = true)
    (raw : String) : tokens delimiters (Text.trim raw) = tokens delimiters raw := by
  obtain ⟨front, back, hfront, hback, hraw⟩ := Text.exists_eq_append_trimChars raw.toList
  have h : tokens delimiters (String.ofList raw.toList) =
      tokens delimiters (String.ofList (Text.trimChars raw.toList)) := by
    rw [hraw, tokens_append_of_front (padding_of_delimiters fun c hc => hblank c (hfront c hc)),
      tokens_append_of_back (padding_of_delimiters fun c hc => hblank c (hback c hc)), ← hraw]
  rw [String.ofList_toList] at h
  exact h.symm

end Delimited

end TracerSettings
