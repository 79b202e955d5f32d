import TracerSettings.Proofs.OrderedMap.Layers
import TracerSettings.Proofs.Tokens

namespace TracerSettings

open OrderedMap

variable {entry : String → Except String (String × String)}

def leftOut? (entry : String → Except String (String × String)) (token : String) :
    Option Rejected :=
  match entry token with
  | .ok _ => none
  | .error reason => some ⟨token, reason⟩

theorem foldl_addEntry (tokens : List String) (r : Reading OrderedMap) :
    tokens.foldl (fun r token => r.addEntry token (entry token)) r =
      ⟨(tokens.filterMap fun token => (entry token).toOption).foldl
        (fun m (k, v) => m.insert k v) r.value,
        r.rejected ++ tokens.filterMap (leftOut? entry)⟩ := by
  induction tokens generalizing r with
  | nil => simp
  | cons token tokens ih =>
      rw [List.foldl_cons, ih]
      cases hentry : entry token with
      | error reason => simp [leftOut?, hentry, Except.toOption, Reading.addEntry]
      | ok pair => simp [leftOut?, hentry, Except.toOption, Reading.addEntry]

theorem readEntries_eq (entry : String → Except String (String × String)) (tokens : List String) :
    readEntries entry tokens =
      ⟨ofList (tokens.filterMap fun token => (entry token).toOption),
        tokens.filterMap (leftOut? entry)⟩ :=
  foldl_addEntry tokens (.clean .empty)

theorem nodup_keys_readEntries (entry : String → Except String (String × String))
    (tokens : List String) : (readEntries entry tokens).value.keys.Nodup := by
  rw [readEntries_eq]
  exact nodup_keys_ofList _

theorem exists_entry_of_mem_readEntries {tokens : List String} {pair : String × String}
    (h : pair ∈ (readEntries entry tokens).value.entries) :
    ∃ token ∈ tokens, entry token = .ok pair := by
  rw [readEntries_eq] at h
  obtain ⟨token, htoken, hpair⟩ := List.mem_filterMap.1 (mem_of_mem_ofList h)
  refine ⟨token, htoken, ?_⟩
  cases hentry : entry token with
  | error reason =>
      rw [hentry] at hpair
      cases hpair
  | ok found =>
      rw [hentry] at hpair
      cases hpair
      rfl

/-- What becomes of tokens, one by one and in order: each writes an entry, or is left out for a
reason. -/
inductive Accounts (Writes : String → String × String → Prop) (Lacks : String → String → Prop) :
    List String → List (String × String) → List Rejected → Prop
  | nil : Accounts Writes Lacks [] [] []
  | writes {token : String} {pair : String × String} {tokens : List String}
      {entries : List (String × String)} {rejected : List Rejected} (h : Writes token pair)
      (hrest : Accounts Writes Lacks tokens entries rejected) :
      Accounts Writes Lacks (token :: tokens) (pair :: entries) rejected
  | lacks {token reason : String} {tokens : List String} {entries : List (String × String)}
      {rejected : List Rejected} (h : Lacks token reason)
      (hrest : Accounts Writes Lacks tokens entries rejected) :
      Accounts Writes Lacks (token :: tokens) entries (⟨token, reason⟩ :: rejected)

section Accounts

variable {Writes : String → String × String → Prop} {Lacks : String → String → Prop}
  {tokens : List String} {entries : List (String × String)} {rejected : List Rejected}

theorem Accounts.exists_writes (h : Accounts Writes Lacks tokens entries rejected)
    {pair : String × String} (hpair : pair ∈ entries) : ∃ token ∈ tokens, Writes token pair := by
  induction h with
  | nil => exact absurd hpair List.not_mem_nil
  | @writes token _ _ _ _ h _ ih =>
      rcases List.mem_cons.1 hpair with rfl | hpair
      · exact ⟨token, List.mem_cons_self, h⟩
      · exact (ih hpair).imp fun t ht => ⟨List.mem_cons_of_mem token ht.1, ht.2⟩
  | @lacks token _ _ _ _ _ _ ih =>
      exact (ih hpair).imp fun t ht => ⟨List.mem_cons_of_mem token ht.1, ht.2⟩

theorem accounts_filterMap
    (hwrites : ∀ token ∈ tokens, ∀ pair, entry token = .ok pair → Writes token pair)
    (hlacks : ∀ token ∈ tokens, ∀ reason, entry token = .error reason → Lacks token reason) :
    Accounts Writes Lacks tokens (tokens.filterMap fun token => (entry token).toOption)
      (tokens.filterMap (leftOut? entry)) := by
  induction tokens with
  | nil => exact .nil
  | cons token tokens ih =>
      obtain ⟨hwrites, hwrites'⟩ := List.forall_mem_cons.1 hwrites
      obtain ⟨hlacks, hlacks'⟩ := List.forall_mem_cons.1 hlacks
      cases hentry : entry token with
      | ok pair =>
          simp only [List.filterMap_cons, hentry, Except.toOption, leftOut?]
          exact .writes (hwrites pair hentry) (ih hwrites' hlacks')
      | error reason =>
          simp only [List.filterMap_cons, hentry, Except.toOption, leftOut?]
          exact .lacks (hlacks reason hentry) (ih hwrites' hlacks')

theorem accounts_readEntries
    (hwrites : ∀ token ∈ tokens, ∀ pair, entry token = .ok pair → Writes token pair)
    (hlacks : ∀ token ∈ tokens, ∀ reason, entry token = .error reason → Lacks token reason) :
    ∃ entries, Accounts Writes Lacks tokens entries (readEntries entry tokens).rejected ∧
      (readEntries entry tokens).value = ofList entries := by
  rw [readEntries_eq]
  exact ⟨_, accounts_filterMap hwrites hlacks, rfl⟩

end Accounts

def readText (entry : String → Except String (String × String)) (raw : String) :
    Reading OrderedMap :=
  readEntries entry (tokens .comma raw)

theorem nodup_keys_readText (raw : String) : (readText entry raw).value.keys.Nodup :=
  nodup_keys_readEntries entry (tokens .comma raw)

theorem value_readText_intercalate (texts : List String) :
    (readText entry (",".intercalate texts)).value =
      (texts.map fun text => (readText entry text).value).foldl extend empty := by
  have hlayers := foldl_extend_ofList
    (texts.map fun text => (tokens .comma text).filterMap fun token => (entry token).toOption) []
  rw [List.map_map, List.nil_append] at hlayers
  simp only [readText, readEntries_eq, tokens_intercalate, List.filterMap_flatMap]
  exact hlayers.symm

theorem value_readText_append (texts texts' : List String) :
    (readText entry (",".intercalate (texts ++ texts'))).value =
      (readText entry (",".intercalate texts)).value.extend
        (readText entry (",".intercalate texts')).value := by
  simp only [readText, readEntries_eq, tokens_intercalate, List.flatMap_append,
    List.filterMap_append, ofList_append]

theorem rejected_readText_intercalate (texts : List String) :
    (readText entry (",".intercalate texts)).rejected =
      texts.flatMap fun text => (readText entry text).rejected := by
  simp only [readText, readEntries_eq, tokens_intercalate, List.filterMap_flatMap]

end TracerSettings
