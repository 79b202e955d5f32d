import Mathlib.Data.List.Forall2
import TracerSettings.Proofs.OrderedMap
import TracerSettings.Proofs.Pairs.Entries
import TracerSettings.Proofs.Text.Character

namespace TracerSettings

/-- The letters of tag names: small letters and digits of ASCII, `-`, `/` and `_`. -/
def isTagLetter (c : Char) : Bool :=
  c.isLower || c.isDigit || c == '-' || c == '/' || c == '_'

inductive TagLetter : Char → Char → Prop
  | kept {c : Char} (h : isTagLetter c = true) : TagLetter c c
  | lowered {c : Char} (h : c.isUpper = true) : TagLetter c c.toLower
  | replaced {c : Char} (hcapital : c.isUpper = false) (hletter : isTagLetter c = false) :
      TagLetter c '_'

section Letters

variable {c d : Char}

theorem isTagLetter_iff :
    isTagLetter c = true ↔ (97 ≤ c.toNat ∧ c.toNat ≤ 122) ∨ (48 ≤ c.toNat ∧ c.toNat ≤ 57) ∨
      c.toNat = 45 ∨ c.toNat = 47 ∨ c.toNat = 95 := by
  simp only [isTagLetter, Bool.or_eq_true, Text.isLower_iff, Text.isDigit_iff, beq_iff_eq,
    ← Char.toNat_inj, or_assoc]
  rfl

theorem TagLetter.isTagLetter (h : TagLetter c d) : isTagLetter d = true := by
  cases h with
  | kept h => exact h
  | lowered h =>
      rw [isTagLetter_iff, Text.toNat_toLower, if_pos (Text.isUpper_iff.1 h)]
      have hcode := Text.isUpper_iff.1 h
      omega
  | replaced => rfl

theorem tagLetter_tagCharacter (c : Char) : TagLetter c (tagCharacter c) := by
  have halphanum : c.isAlphanum = (c.isUpper || c.isLower || c.isDigit) := rfl
  have hsame (hcapital : c.isUpper = false) : c.toLower = c :=
    dif_neg (of_decide_eq_false hcapital)
  rw [tagCharacter, halphanum]
  by_cases hcapital : c.isUpper = true
  · rw [if_pos (by simp [hcapital])]
    exact .lowered hcapital
  · rw [Bool.not_eq_true] at hcapital
    rw [hcapital, Bool.false_or, hsame hcapital]
    split
    · rename_i hletter
      exact .kept (Bool.or_eq_true_iff.2 (.inl hletter))
    · rename_i hother
      -- What is left of the letters is the underscore, which stands for itself either way.
      by_cases hunderscore : c = '_'
      · subst hunderscore
        exact .kept rfl
      · refine .replaced hcapital (Bool.or_eq_false_iff.2 ⟨Bool.not_eq_true _ ▸ hother, ?_⟩)
        exact beq_false_of_ne hunderscore

theorem tagCharacter_of_isTagLetter (h : isTagLetter c = true) : tagCharacter c = c := by
  have hletter := tagLetter_tagCharacter c
  generalize tagCharacter c = d at hletter
  cases hletter with
  | kept => rfl
  | lowered hcapital =>
      have hcode := Text.isUpper_iff.1 hcapital
      have hcodes := isTagLetter_iff.1 h
      omega
  | replaced _ hother => rw [h] at hother; cases hother

theorem not_isBlank_of_isTagLetter (h : isTagLetter c = true) : Text.isBlank c = false := by
  rw [Bool.eq_false_iff]
  intro hblank
  simp only [Text.isBlank, Bool.or_eq_true, Bool.and_eq_true, decide_eq_true_eq, beq_iff_eq]
    at hblank
  have hcodes := isTagLetter_iff.1 h
  omega

end Letters

section Names

variable {name : String} {c : Char}

theorem toList_tagName (name : String) :
    (tagName name).toList = (Text.trim name).toList.map tagCharacter :=
  String.toList_map

theorem forall₂_tagName (name : String) :
    List.Forall₂ TagLetter (Text.trim name).toList (tagName name).toList := by
  rw [toList_tagName, List.forall₂_map_right_iff, List.forall₂_same]
  exact fun c _ => tagLetter_tagCharacter c

theorem isTagLetter_of_mem_tagName (h : c ∈ (tagName name).toList) : isTagLetter c = true := by
  rw [toList_tagName] at h
  obtain ⟨d, -, rfl⟩ := List.mem_map.1 h
  exact (tagLetter_tagCharacter d).isTagLetter

theorem tagName_eq_self (h : ∀ c ∈ name.toList, isTagLetter c = true) : tagName name = name := by
  have htrim : (Text.trim name).toList = name.toList := by
    rw [Text.toList_trim, Text.trimChars_of_forall fun c hc => not_isBlank_of_isTagLetter (h c hc)]
  apply String.toList_injective
  rw [toList_tagName, htrim,
    List.map_congr_left fun c hc => tagCharacter_of_isTagLetter (h c hc), List.map_id']

theorem tagName_ne_empty (h : Text.trim name ≠ "") : tagName name ≠ "" := by
  intro hempty
  have hlength := (forall₂_tagName name).length_eq
  rw [hempty] at hlength
  exact h (String.toList_eq_nil_iff.1 (List.length_eq_zero_iff.1 hlength))

end Names

namespace TagMapping

/-- The texts of a token for its key and for its value: those before and after its first `=`,
trimmed. Without one all of the token is key. -/
inductive Parts : String → String → String → Prop
  | bare {token : String} (h : '=' ∉ token.toList) : Parts token (Text.trim token) ""
  | pair {token : String} {left right : List Char} (h : token.toList = left ++ '=' :: right)
      (hsign : '=' ∉ left) :
      Parts token (Text.trim (String.ofList left)) (Text.trim (String.ofList right))

inductive Stores (m : TagMapping) (key : String) : String → Prop
  | asWritten (h : m.lowerCaseKeys = false) : Stores m key key
  | lowered (h : m.lowerCaseKeys = true) : Stores m key (Text.lowerCase key)

inductive Names (m : TagMapping) (key : String) : String → String → Prop
  | written {text : String} (h : text ≠ "") : Names m key text text
  | derived {start : String} (h : m.tagPrefix = some start) : Names m key "" (start ++ tagName key)
  | own (h : m.tagPrefix = none) : Names m key "" key

/-- A token writes its tag under its key, if it has one. -/
inductive Writes (m : TagMapping) : String → String × String → Prop
  | tag {token key text stored tag : String} (hparts : Parts token key text) (hkey : key ≠ "")
      (hstores : m.Stores key stored) (hnames : m.Names stored text tag) :
      Writes m token (stored, tag)

/-- A token that writes nothing has nothing but white space for its key. -/
inductive Lacks : String → String → Prop
  | key {token text : String} (hparts : Parts token "" text) : Lacks token "empty key"

variable {m : TagMapping} {token key text stored tag reason : String} {pair : String × String}

theorem exists_parts (token : String) : ∃ key text, Parts token key text := by
  cases hsides : Pairs.sides token with
  | none => exact ⟨_, _, .bare (Pairs.sides_eq_none_iff.1 hsides)⟩
  | some pair =>
      obtain ⟨left, right, htoken, hsign, -⟩ := Pairs.sides_eq_some_iff.1 hsides
      exact ⟨_, _, .pair htoken hsign⟩

theorem Parts.trim_key (h : Parts token key text) : Text.trim key = key := by
  cases h with
  | bare => exact Text.trim_trim token
  | pair => exact Text.trim_trim _

theorem stores_iff : m.Stores key stored ↔ stored = m.storedKey key := by
  rw [storedKey]
  constructor
  · intro h
    cases h with
    | asWritten h => simp [h]
    | lowered h => simp [h]
  · rintro rfl
    split
    · exact .lowered ‹_›
    · exact .asWritten (Bool.not_eq_true _ ▸ ‹_›)

theorem names_iff : m.Names key text tag ↔ tag = if text = "" then m.defaultTag key else text := by
  rw [defaultTag]
  constructor
  · intro h
    cases h with
    | written h => rw [if_neg h]
    | derived h => simp [h]
    | own h => simp [h]
  · rintro rfl
    split
    · subst text
      split
      · exact .derived ‹_›
      · exact .own ‹_›
    · exact .written ‹_›

theorem entry_of_parts (htoken : Text.Trimmed token) (h : Parts token key text) :
    m.entry token = if key = "" then .error "empty key"
      else .ok (m.storedKey key,
        if text = "" then m.defaultTag (m.storedKey key) else text) := by
  cases h with
  | bare h => rw [entry, Pairs.sides_eq_none_iff.2 h, Text.trim_eq_self_iff.2 htoken]; rfl
  | @pair left right h hsign =>
      rw [entry, Pairs.sides_eq_some_iff.2 ⟨left, right, h, hsign, rfl⟩]
      rfl

theorem entry_eq_ok_iff (htoken : Text.Trimmed token) :
    m.entry token = .ok pair ↔ m.Writes token pair := by
  constructor
  · intro h
    obtain ⟨key, text, hparts⟩ := exists_parts token
    rw [entry_of_parts htoken hparts] at h
    split at h
    · cases h
    · rename_i hkey
      cases h
      exact .tag hparts hkey (stores_iff.2 rfl) (names_iff.2 rfl)
  · rintro ⟨hparts, hkey, hstores, hnames⟩
    rw [entry_of_parts htoken hparts, if_neg hkey, ← stores_iff.1 hstores, ← names_iff.1 hnames]

theorem entry_eq_error_iff (htoken : Text.Trimmed token) :
    m.entry token = .error reason ↔ Lacks token reason := by
  constructor
  · intro h
    obtain ⟨key, text, hparts⟩ := exists_parts token
    rw [entry_of_parts htoken hparts] at h
    split at h
    · rename_i hkey
      cases h
      exact .key (hkey ▸ hparts)
    · cases h
  · rintro ⟨hparts⟩
    rw [entry_of_parts htoken hparts, if_pos rfl]

theorem writes_iff_not_lacks (htoken : Text.Trimmed token) :
    (∃ pair, m.Writes token pair) ↔ ¬∃ reason, Lacks token reason := by
  simp only [← entry_eq_ok_iff htoken, ← entry_eq_error_iff (m := m) htoken]
  cases m.entry token <;> simp

theorem Stores.trim_ne_empty (h : m.Stores key stored) (hkey : Text.trim key ≠ "") :
    Text.trim stored ≠ "" := by
  cases h with
  | asWritten => exact hkey
  | lowered => exact Text.trim_lowerCase_ne_empty hkey

theorem Names.ne_empty (h : m.Names key text tag) (hkey : Text.trim key ≠ "") : tag ≠ "" := by
  cases h with
  | written h => exact h
  | derived => exact fun h => tagName_ne_empty hkey (String.append_eq_empty_iff.1 h).2
  | own =>
      rintro rfl
      exact hkey rfl

theorem Writes.ne_empty (h : m.Writes token pair) : pair.1 ≠ "" ∧ pair.2 ≠ "" := by
  obtain ⟨hparts, hkey, hstores, hnames⟩ := h
  have hstored := hstores.trim_ne_empty (by rwa [hparts.trim_key])
  refine ⟨?_, hnames.ne_empty hstored⟩
  rintro rfl
  exact hstored rfl

theorem Parts.key_unsigned (h : Parts token key text) : '=' ∉ key.toList := by
  cases h with
  | bare h =>
      rw [Text.toList_trim]
      exact fun hmem => h (Text.mem_of_mem_trimChars hmem)
  | @pair left right _ hsign =>
      rw [Text.toList_trim, String.toList_ofList]
      exact fun hmem => hsign (Text.mem_of_mem_trimChars hmem)

theorem Stores.unsigned (h : m.Stores key stored) (hkey : '=' ∉ key.toList) :
    '=' ∉ stored.toList := by
  cases h with
  | asWritten => exact hkey
  | lowered => exact fun hmem => hkey (Text.mem_of_mem_lowerCase (by decide) hmem)

theorem unsigned_of_mem_keys {raw : String} (h : key ∈ (m.read raw).value.keys) :
    '=' ∉ key.toList := by
  obtain ⟨pair, hpair, rfl⟩ := List.mem_map.1 h
  obtain ⟨token, htoken, hok⟩ := exists_entry_of_mem_readEntries hpair
  obtain ⟨hparts, -, hstores, -⟩ :=
    (entry_eq_ok_iff (isToken_of_mem_tokens htoken).trimmed).1 hok
  exact hstores.unsigned hparts.key_unsigned

/-- What a reading of tags comes to: every token writes a tag or lacks a key, and nothing in the map
is empty. Names of tags are of their own letters only. -/
structure ReadsTags (m : TagMapping) : Prop where
  decided (raw : String) : ∀ token ∈ tokens .comma raw,
    (∃ pair, m.Writes token pair) ↔ ¬∃ reason, Lacks token reason
  accounts (raw : String) : ∃ entries,
    Accounts m.Writes Lacks (tokens .comma raw) entries (m.read raw).rejected ∧
      (m.read raw).value.KeepsLast entries
  nonempty (raw : String) : ∀ entry ∈ (m.read raw).value.entries, entry.1 ≠ "" ∧ entry.2 ≠ ""
  letterwise (name : String) : List.Forall₂ TagLetter (Text.trim name).toList (tagName name).toList
  letters (name : String) : ∀ c ∈ (tagName name).toList, isTagLetter c = true
  idempotent (name : String) : tagName (tagName name) = tagName name

theorem read_tags (m : TagMapping) : ReadsTags m := by
  have hreads (raw : String) : ∃ entries,
      Accounts m.Writes Lacks (tokens .comma raw) entries (m.read raw).rejected ∧
        (m.read raw).value = OrderedMap.ofList entries :=
    accounts_readEntries (fun _ h _ => (entry_eq_ok_iff (isToken_of_mem_tokens h).trimmed).1)
      fun _ h _ => (entry_eq_error_iff (isToken_of_mem_tokens h).trimmed).1
  constructor
  case decided =>
    exact fun raw token htoken => writes_iff_not_lacks (isToken_of_mem_tokens htoken).trimmed
  case accounts =>
    intro raw
    obtain ⟨entries, haccounts, hvalue⟩ := hreads raw
    exact ⟨entries, haccounts, hvalue ▸ OrderedMap.keepsLast_ofList entries⟩
  case nonempty =>
    intro raw entry hentry
    obtain ⟨entries, haccounts, hvalue⟩ := hreads raw
    rw [hvalue] at hentry
    obtain ⟨token, -, hwrites⟩ := haccounts.exists_writes (OrderedMap.mem_of_mem_ofList hentry)
    exact hwrites.ne_empty
  case letterwise => exact forall₂_tagName
  case letters => exact fun name c => isTagLetter_of_mem_tagName
  case idempotent => exact fun name => tagName_eq_self fun c => isTagLetter_of_mem_tagName

example : (TagMapping.mk (some "tags.") true).read "X.Id, =v, User Agent = a=b, x.id=" =
    ⟨⟨[("x.id", "tags.x_id"), ("user agent", "a=b")]⟩, [⟨"=v", "empty key"⟩]⟩ := by
  decide +kernel

end TagMapping

end TracerSettings
