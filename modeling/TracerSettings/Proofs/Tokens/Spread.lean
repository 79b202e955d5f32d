import TracerSettings.Proofs.Firsts
import TracerSettings.Proofs.Tokens

namespace TracerSettings

/-- A text holds some items in order, with commas and blanks around them and at least one delimiter
between two of them. -/
inductive Spread (delimiters : Delimiters) : List String → List Char → Prop
  | nothing {gap : List Char} (hgap : Padding gap) : Spread delimiters [] gap
  | last {item : String} {front back : List Char} (hfront : Padding front) (hback : Padding back) :
      Spread delimiters [item] (front ++ (item.toList ++ back))
  | more {item : String} {items : List String} {front gap rest : List Char} {d : Char}
      (hfront : Padding front) (hgap : Padding gap) (hd : delimiters.contains d = true)
      (hrest : Spread delimiters items rest) :
      Spread delimiters (item :: items) (front ++ (item.toList ++ (gap ++ d :: rest)))

section Spread

variable {delimiters : Delimiters} {items : List String} {front cs : List Char}

theorem padding_append {gap : List Char} (hfront : Padding front) (hgap : Padding gap) :
    Padding (front ++ gap) :=
  List.forall_mem_append.2 ⟨hfront, hgap⟩

theorem Spread.append_left (hfront : Padding front) (h : Spread delimiters items cs) :
    Spread delimiters items (front ++ cs) := by
  cases h with
  | nothing hgap => exact .nothing (padding_append hfront hgap)
  | last hfront' hback =>
      rw [← List.append_assoc]
      exact .last (padding_append hfront hfront') hback
  | more hfront' hgap hd hrest =>
      rw [← List.append_assoc]
      exact .more (padding_append hfront hfront') hgap hd hrest

theorem Spread.tokens_eq (h : Spread delimiters items cs)
    (hitems : ∀ item ∈ items, IsToken delimiters item) :
    tokens delimiters (String.ofList cs) = items := by
  induction h with
  | nothing hgap => exact tokens_of_padding hgap
  | @last item _ _ hfront hback =>
      have hitem : IsToken delimiters item := hitems item List.mem_cons_self
      rw [tokens_append_of_front hfront, tokens_append_of_back hback, String.ofList_toList,
        hitem.tokens_eq]
  | @more item items _ _ _ _ hfront hgap hd _ ih =>
      obtain ⟨hitem, hitems⟩ := List.forall_mem_cons.1 hitems
      rw [tokens_append_of_front hfront, ← List.append_assoc, tokens_append_cons hd,
        tokens_append_of_back hgap, String.ofList_toList, hitem.tokens_eq, ih hitems]
      rfl

theorem Spread.append {items' : List String} {left right : List Char} {d : Char}
    (h : Spread delimiters items left) (hd : delimiters.contains d = true)
    (h' : Spread delimiters items' right) :
    Spread delimiters (items ++ items') (left ++ d :: right) := by
  induction h with
  | nothing hgap =>
      have hd' : Padding [d] := padding_of_delimiters (List.forall_mem_singleton.2 hd)
      rw [List.append_cons]
      exact h'.append_left (padding_append hgap hd')
  | last hfront hback =>
      rw [List.append_assoc, List.append_assoc]
      exact .more hfront hback hd h'
  | more hfront hgap hb _ ih =>
      simp only [List.append_assoc, List.cons_append]
      exact .more hfront hgap hb ih

theorem spread_piece (piece : List Char) :
    Spread delimiters (Text.nonBlank (String.ofList piece)).toList piece := by
  cases h : Text.nonBlank (String.ofList piece) with
  | none =>
      have hblank := Text.nonBlank_eq_none_iff.1 h
      rw [String.toList_ofList] at hblank
      exact .nothing (padding_of_blank hblank)
  | some item =>
      obtain ⟨front, back, hfront, hback, hpiece⟩ := Text.exists_eq_append_of_nonBlank h
      rw [String.toList_ofList] at hpiece
      rw [hpiece]
      exact .last (padding_of_blank hfront) (padding_of_blank hback)

theorem spread_tokens (delimiters : Delimiters) (cs : List Char) :
    Spread delimiters (tokens delimiters (String.ofList cs)) cs := by
  induction cs using Text.separated_induction (p := delimiters.contains) with
  | whole cs hcs =>
      rw [tokens_of_whole hcs]
      exact spread_piece cs
  | cut left d right hleft hd ih =>
      rw [tokens_append_cons hd, tokens_of_whole hleft]
      exact (spread_piece left).append hd ih

theorem tokens_eq_iff {raw : String} :
    tokens delimiters raw = items ↔
      (∀ item ∈ items, IsToken delimiters item) ∧ Spread delimiters items raw.toList := by
  constructor
  · rintro rfl
    refine ⟨fun item => isToken_of_mem_tokens, ?_⟩
    simpa using spread_tokens delimiters raw.toList
  · rintro ⟨hitems, h⟩
    simpa using h.tokens_eq hitems

theorem tokens_joined (h : ∀ item ∈ items, IsToken delimiters item) :
    tokens delimiters (",".intercalate items) = items := by
  have hsingle : items.flatMap (tokens delimiters) = items.flatMap fun item => [item] :=
    List.flatMap_congr fun item hitem => (h item hitem).tokens_eq
  rw [tokens_intercalate, hsingle, List.flatMap_singleton']

theorem isToken_of_mem_tokenSet {raw item : String} (h : item ∈ tokenSet delimiters raw) :
    IsToken delimiters item :=
  isToken_of_mem_tokens (mem_unique.1 h)

end Spread

/-- How texts are taken apart into tokens and put together from them. -/
structure Tokenizes (delimiters : Delimiters) : Prop where
  isToken {raw token : String} (h : token ∈ tokens delimiters raw) : IsToken delimiters token
  append (left right : String) :
    tokens delimiters (left ++ "," ++ right) = tokens delimiters left ++ tokens delimiters right
  spread {raw : String} {items : List String} (h : ∀ item ∈ items, IsToken delimiters item) :
    tokens delimiters raw = items ↔ Spread delimiters items raw.toList
  set (raw : String) : tokenSet delimiters raw = (tokens delimiters raw).eraseDups
  joined (raw : String) :
    tokens delimiters (",".intercalate (tokens delimiters raw)) = tokens delimiters raw
  joinedSet (raw : String) :
    tokens delimiters (",".intercalate (tokenSet delimiters raw)) = tokenSet delimiters raw ∧
      tokenSet delimiters (",".intercalate (tokenSet delimiters raw)) = tokenSet delimiters raw

theorem tokenizes (delimiters : Delimiters) : Tokenizes delimiters := by
  constructor
  case isToken => exact isToken_of_mem_tokens
  case append =>
    intro left right
    have h := tokens_append_cons delimiters.contains_comma left.toList right.toList
    rw [String.ofList_toList, String.ofList_toList] at h
    rw [← h]
    congr 1
    apply String.toList_injective
    simp
  case spread =>
    intro raw items h
    rw [tokens_eq_iff, and_iff_right h]
  case set => exact fun raw => unique_eq_eraseDups _
  case joined => exact fun raw => tokens_joined fun item => isToken_of_mem_tokens
  case joinedSet =>
    intro raw
    have htokens : tokens delimiters (",".intercalate (tokenSet delimiters raw)) =
        tokenSet delimiters raw :=
      tokens_joined fun item => isToken_of_mem_tokenSet
    refine ⟨htokens, ?_⟩
    rw [tokenSet, htokens]
    exact unique_of_nodup (nodup_unique _)

/-- Blanks inside of a token stay; those around it, and empty tokens, do not count. -/
theorem tokens_padded :
    (∀ item ∈ ["b3 single", "b3"], IsToken .comma item) ∧
      Spread .comma ["b3 single", "b3"] ", b3 single ,\t, b3 ".toList ∧
      tokens .comma ", b3 single ,\t, b3 " = ["b3 single", "b3"] := by
  have hitems : ∀ item ∈ ["b3 single", "b3"], IsToken .comma item := by
    have hread : tokens .comma "b3 single,b3" = ["b3 single", "b3"] := by decide +kernel
    rw [← hread]
    exact fun item => (tokenizes .comma).isToken
  have hfront : Padding ", ".toList := by simp [Padding, Text.isBlank]
  have hmiddle : Padding "\t, ".toList := by simp [Padding, Text.isBlank]
  have hgap : Padding " ".toList := by simp [Padding, Text.isBlank]
  have hlast : Spread .comma ["b3"] ("\t, ".toList ++ ("b3".toList ++ " ".toList)) :=
    .last hmiddle hgap
  have hspread : Spread .comma ["b3 single", "b3"] ", b3 single ,\t, b3 ".toList :=
    .more hfront hgap rfl hlast
  exact ⟨hitems, hspread, ((tokenizes .comma).spread hitems).2 hspread⟩

end TracerSettings
