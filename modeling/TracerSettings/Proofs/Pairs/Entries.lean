import TracerSettings.Proofs.Pairs
import TracerSettings.Proofs.Tokens.Spread

namespace TracerSettings

open OrderedMap

theorem Delimiters.contains_comma_eq_false {delimiters : Delimiters} {c : Char}
    (h : delimiters.contains c = false) : Delimiters.comma.contains c = false := by
  cases delimiters with
  | comma => exact h
  | commaOrBlank => exact (Bool.or_eq_false_iff.1 h).1

namespace Pairs

/-- A token writes the trimmed texts before and after its first `=`, if the one before is not
blank. -/
inductive Writes : String → String × String → Prop
  | cut {token : String} {left right : List Char} (h : token.toList = left ++ '=' :: right)
      (hsign : '=' ∉ left) (hkey : Text.trim (String.ofList left) ≠ "") :
      Writes token (Text.trim (String.ofList left), Text.trim (String.ofList right))

/-- A token that writes nothing has no `=` at all, or nothing but white space before the first. -/
inductive Lacks : String → String → Prop
  | sign {token : String} (h : '=' ∉ token.toList) : Lacks token "expected key=value"
  | key {token : String} {left right : List Char} (h : token.toList = left ++ '=' :: right)
      (hsign : '=' ∉ left) (hblank : ∀ c ∈ left, Text.isBlank c = true) : Lacks token "empty key"

variable {delimiters : Delimiters} {token key value reason : String} {pair : String × String}

theorem sides_eq_none_iff : sides token = none ↔ '=' ∉ token.toList := by
  rw [sides, Option.map_eq_none_iff, Text.cut_eq_none_iff]

theorem sides_eq_some_iff :
    sides token = some pair ↔
      ∃ left right, token.toList = left ++ '=' :: right ∧ '=' ∉ left ∧
        pair = (Text.trim (String.ofList left), Text.trim (String.ofList right)) := by
  rw [sides, Option.map_eq_some_iff]
  constructor
  · rintro ⟨⟨left, right⟩, hcut, rfl⟩
    obtain ⟨hsign, htoken⟩ := Text.cut_eq_some_iff.1 hcut
    exact ⟨left, right, htoken, hsign, rfl⟩
  · rintro ⟨left, right, htoken, hsign, rfl⟩
    exact ⟨(left, right), Text.cut_eq_some_iff.2 ⟨hsign, htoken⟩, rfl⟩

theorem entry_eq_ok_iff : entry token = .ok pair ↔ Writes token pair := by
  constructor
  · intro h
    rw [entry] at h
    split at h
    · cases h
    · rename_i key value hsides
      obtain ⟨left, right, htoken, hsign, hpair⟩ := sides_eq_some_iff.1 hsides
      obtain ⟨rfl, rfl⟩ := Prod.mk.inj hpair
      split at h
      · cases h
      · rename_i hkey
        cases h
        exact .cut htoken hsign hkey
  · rintro @⟨left, right, htoken, hsign, hkey⟩
    rw [entry, sides_eq_some_iff.2 ⟨left, right, htoken, hsign, rfl⟩]
    exact if_neg hkey

theorem entry_eq_error_iff : entry token = .error reason ↔ Lacks token reason := by
  have hblank_iff (left : List Char) :
      Text.trim (String.ofList left) = "" ↔ ∀ c ∈ left, Text.isBlank c = true := by
    rw [Text.trim_eq_empty_iff, String.toList_ofList]
  constructor
  · intro h
    rw [entry] at h
    split at h
    · rename_i hsides
      cases h
      exact .sign (sides_eq_none_iff.1 hsides)
    · rename_i key value hsides
      obtain ⟨left, right, htoken, hsign, hpair⟩ := sides_eq_some_iff.1 hsides
      obtain ⟨rfl, rfl⟩ := Prod.mk.inj hpair
      split at h
      · rename_i hkey
        cases h
        exact .key htoken hsign ((hblank_iff left).1 hkey)
      · cases h
  · intro h
    cases h with
    | sign h => rw [entry, sides_eq_none_iff.2 h]
    | @key left right htoken hsign hblank =>
        rw [entry, sides_eq_some_iff.2 ⟨left, right, htoken, hsign, rfl⟩]
        exact if_pos ((hblank_iff left).2 hblank)

theorem writes_iff_not_lacks :
    (∃ pair, Writes token pair) ↔ ¬∃ reason, Lacks token reason := by
  simp only [← entry_eq_ok_iff, ← entry_eq_error_iff]
  cases entry token <;> simp

structure IsEntry (delimiters : Delimiters) (pair : String × String) : Prop where
  key_ne_empty : pair.1 ≠ ""
  key_trimmed : Text.Trimmed pair.1
  key_unsigned : '=' ∉ pair.1.toList
  value_trimmed : Text.Trimmed pair.2
  whole : ∀ c ∈ pair.1.toList ++ pair.2.toList, delimiters.contains c = false

theorem Writes.isEntry (h : Writes token pair) (htoken : IsToken delimiters token) :
    IsEntry delimiters pair := by
  obtain @⟨left, right, hcs, hsign, hkey⟩ := h
  have hwhole := htoken.whole
  rw [hcs, List.forall_mem_append, List.forall_mem_cons] at hwhole
  have hmem (cs : List Char) : ∀ c ∈ (Text.trim (String.ofList cs)).toList, c ∈ cs := by
    intro c hc
    rw [Text.toList_trim, String.toList_ofList] at hc
    exact Text.mem_of_mem_trimChars hc
  refine ⟨hkey, Text.trimmed_trim _, fun h => hsign (hmem left _ h), Text.trimmed_trim _, ?_⟩
  exact List.forall_mem_append.2 ⟨fun c hc => hwhole.1 c (hmem left c hc),
    fun c hc => hwhole.2.2 c (hmem right c hc)⟩

namespace IsEntry

theorem comma (h : IsEntry delimiters pair) : IsEntry .comma pair :=
  { h with whole := fun c hc => Delimiters.contains_comma_eq_false (h.whole c hc) }

theorem isToken (h : IsEntry delimiters (key, value)) :
    IsToken delimiters (key ++ "=" ++ value) := by
  have htext : (key ++ "=" ++ value).toList = key.toList ++ '=' :: value.toList := by simp
  constructor
  case ne_empty =>
    intro hempty
    rw [hempty] at htext
    simp at htext
  case trimmed =>
    constructor
    · rw [htext]
      obtain ⟨c, cs, hkey⟩ :=
        List.exists_cons_of_ne_nil (mt String.toList_eq_nil_iff.1 h.key_ne_empty)
      have hstart := h.key_trimmed.start
      rw [hkey] at hstart ⊢
      exact hstart
    · rw [htext, List.getLast?_append, List.getLast?_cons]
      intro c hc
      cases hvalue : value.toList.getLast? with
      | none =>
          rw [hvalue] at hc
          cases hc
          rfl
      | some d =>
          rw [hvalue] at hc
          cases hc
          exact h.value_trimmed.ending d hvalue
  case whole =>
    have hwhole := List.forall_mem_append.1 h.whole
    have hequals : delimiters.contains '=' = false := by
      cases delimiters <;> rfl
    rw [htext]
    exact List.forall_mem_append.2 ⟨hwhole.1, List.forall_mem_cons.2 ⟨hequals, hwhole.2⟩⟩

theorem entry_eq (h : IsEntry delimiters (key, value)) :
    entry (key ++ "=" ++ value) = .ok (key, value) := by
  have htext : (key ++ "=" ++ value).toList = key.toList ++ '=' :: value.toList := by simp
  have hkey : Text.trim (String.ofList key.toList) = key := by
    rw [String.ofList_toList, Text.trim_eq_self_iff.2 h.key_trimmed]
  have hvalue : Text.trim (String.ofList value.toList) = value := by
    rw [String.ofList_toList, Text.trim_eq_self_iff.2 h.value_trimmed]
  have hwrites := Writes.cut htext h.key_unsigned (by rw [hkey]; exact h.key_ne_empty)
  rwa [hkey, hvalue, ← entry_eq_ok_iff] at hwrites

end IsEntry

/-- Whatever map has such entries, each key once, is read back from its text. -/
theorem read_render {m : OrderedMap} (hnodup : m.keys.Nodup)
    (h : ∀ pair ∈ m.entries, IsEntry delimiters pair) : read delimiters m.render = .clean m := by
  have htokens : tokens delimiters m.render =
      m.entries.map fun entry => entry.1 ++ "=" ++ entry.2 :=
    tokens_joined (List.forall_mem_map.2 fun pair hpair => (h pair hpair).isToken)
  have hentries : (tokens delimiters m.render).filterMap (fun token => (entry token).toOption) =
      m.entries := by
    rw [htokens, List.filterMap_map]
    refine (List.filterMap_congr fun pair hpair => ?_).trans List.filterMap_some
    simp only [Function.comp_apply, (h pair hpair).entry_eq]
    rfl
  have hrejected : (tokens delimiters m.render).filterMap (leftOut? entry) = [] := by
    rw [htokens, List.filterMap_map, List.filterMap_eq_nil_iff]
    intro pair hpair
    simp only [Function.comp_apply, leftOut?, (h pair hpair).entry_eq]
  rw [read, readEntries_eq, hentries, hrejected, ofList_entries hnodup]
  rfl

theorem isEntry_of_mem_read {raw : String} (h : pair ∈ (read delimiters raw).value.entries) :
    IsEntry delimiters pair := by
  obtain ⟨token, htoken, hok⟩ := exists_entry_of_mem_readEntries h
  exact (entry_eq_ok_iff.1 hok).isEntry (isToken_of_mem_tokens htoken)

/-- What a reading of pairs comes to, and that it is read back from its text. -/
structure ReadsPairs (delimiters : Delimiters) (raw : String) : Prop where
  decided : ∀ token ∈ tokens delimiters raw,
    (∃ pair, Writes token pair) ↔ ¬∃ reason, Lacks token reason
  accounts : ∃ entries,
    Accounts Writes Lacks (tokens delimiters raw) entries (read delimiters raw).rejected ∧
      (read delimiters raw).value.KeepsLast entries
  nodup : (read delimiters raw).value.keys.Nodup
  keys : ∀ key ∈ (read delimiters raw).value.keys,
    key ≠ "" ∧ Text.Trimmed key ∧ '=' ∉ key.toList
  rendered : read .comma (read delimiters raw).value.render = .clean (read delimiters raw).value
  renderedAlike :
    read delimiters (read delimiters raw).value.render = .clean (read delimiters raw).value

theorem read_accounts (delimiters : Delimiters) (raw : String) : ReadsPairs delimiters raw := by
  have hnodup := nodup_keys_readEntries entry (tokens delimiters raw)
  constructor
  case decided => exact fun token _ => writes_iff_not_lacks
  case accounts =>
    have hreads : ∃ entries,
        Accounts Writes Lacks (tokens delimiters raw) entries (read delimiters raw).rejected ∧
          (read delimiters raw).value = ofList entries :=
      accounts_readEntries (fun _ _ _ => entry_eq_ok_iff.1) fun _ _ _ => entry_eq_error_iff.1
    obtain ⟨entries, haccounts, hvalue⟩ := hreads
    exact ⟨entries, haccounts, hvalue ▸ keepsLast_ofList entries⟩
  case nodup => exact hnodup
  case keys =>
    refine List.forall_mem_map.2 fun pair hpair => ?_
    have hentry := isEntry_of_mem_read hpair
    exact ⟨hentry.key_ne_empty, hentry.key_trimmed, hentry.key_unsigned⟩
  case rendered => exact read_render hnodup fun pair hpair => (isEntry_of_mem_read hpair).comma
  case renderedAlike => exact read_render hnodup fun pair => isEntry_of_mem_read

example : read .comma "a b=1, oops, a b = 2=, c=" =
    ⟨⟨[("a b", "2="), ("c", "")]⟩, [⟨"oops", "expected key=value"⟩]⟩ := by
  decide +kernel

end Pairs

end TracerSettings
