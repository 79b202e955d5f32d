import TracerSettings.Proofs.Text.Character
import TracerSettings.Proofs.Url.Address
import TracerSettings.Url.Host

namespace TracerSettings

namespace Text

theorem toLower_toLower (c : Char) : c.toLower.toLower = c.toLower := by
  apply Char.toNat_inj.1
  have hcode := toNat_toLower c
  rw [toNat_toLower c.toLower]
  split at hcode <;> split <;> omega

end Text

namespace Url

section Percent

variable {cs : List Char}

theorem percentDecode_of_notMem (h : '%' ∉ cs) : percentDecode cs = cs := by
  fun_induction percentDecode cs with
  | case1 a b rest hhex ih => exact absurd List.mem_cons_self h
  | case2 a b rest hhex ih => exact absurd List.mem_cons_self h
  | case3 c rest hne ih => rw [ih (fun hmem => h (List.mem_cons_of_mem c hmem))]
  | case4 => rfl

theorem mem_percentDecode {c : Char} (h : c ∈ cs) (hne : c ≠ '%') (hhex : Text.isHex c = false) :
    c ∈ percentDecode cs := by
  fun_induction percentDecode cs with
  | case1 a b rest hab ih =>
      rw [Bool.and_eq_true] at hab
      rcases List.mem_cons.1 h with rfl | h
      · exact absurd rfl hne
      · rcases List.mem_cons.1 h with rfl | h
        · rw [hab.1] at hhex
          cases hhex
        · rcases List.mem_cons.1 h with rfl | h
          · rw [hab.2] at hhex
            cases hhex
          · exact List.mem_cons_of_mem _ (ih h)
  | case2 a b rest hab ih =>
      rcases List.mem_cons.1 h with rfl | h
      · exact absurd rfl hne
      · exact List.mem_cons_of_mem _ (ih h)
  | case3 d rest hd ih =>
      rcases List.mem_cons.1 h with rfl | h
      · exact List.mem_cons_self
      · exact List.mem_cons_of_mem d (ih h)
  | case4 => cases h

end Percent

namespace Host

theorem isBarred_iff {c : Char} :
    isBarred c = true ↔ c.toNat ≤ 0x20 ∨ 0x7F ≤ c.toNat ∨
      c.toNat ∈ [37, 35, 47, 58, 60, 62, 63, 64, 91, 92, 93, 94, 124] := by
  simp [isBarred, ← Char.toNat_inj, or_assoc]

theorem isBarred_toLower (c : Char) : isBarred c.toLower = isBarred c := by
  rw [Bool.eq_iff_iff, isBarred_iff, isBarred_iff, Text.toNat_toLower]
  simp only [List.mem_cons, List.not_mem_nil, or_false]
  split <;> omega

theorem isBarred_of_isDelimiter {c : Char} (h : isDelimiter c = true) :
    isBarred c = true ∧ c ≠ '%' ∧ Text.isHex c = false := by
  simp only [isDelimiter, Bool.or_eq_true, beq_iff_eq, List.contains_iff_mem] at h
  rcases h with h | h
  · obtain rfl : c = Char.ofNat 0 := Char.toNat_inj.1 h
    decide
  · have hall : ∀ d ∈ "\t\n\r #/:<>?@[\\]^|".toList,
        isBarred d = true ∧ d ≠ '%' ∧ Text.isHex d = false := Text.forall_mem_of_all (by decide)
    exact hall c h

/-- A decoded name in lower case, and the host that it is. -/
structure Names (domain : List Char) (host : Host) : Prop where
  plain : ∀ c ∈ domain, isBarred c = false
  sound : Label.areSound (Text.pieces (· == '.') domain) = true
  nonempty : domain ≠ []
  host : (V4.endsInNumber domain = true ∧ ∃ a, V4.read? domain = some a ∧ host = .v4 a) ∨
    (V4.endsInNumber domain = false ∧ host = .name (String.ofList domain))

theorem any_isBarred_map_toLower (cs : List Char) :
    (cs.map Char.toLower).any isBarred = cs.any isBarred := by
  rw [List.any_map]
  congr 1
  funext c
  exact isBarred_toLower c

theorem ite_error_eq_ok_iff {ε α : Type} {c : Prop} [Decidable c] {e : ε} {x : Except ε α} {a : α} :
    (if c then .error e else x) = .ok a ↔ ¬c ∧ x = .ok a := by
  by_cases hc : c <;> simp [hc]

theorem addressOrName_eq_ok_iff {domain : List Char} {host : Host} :
    ((if V4.endsInNumber domain then
        match V4.read? domain with
        | some address => .ok (.v4 address)
        | none => .error .addressV4
      else .ok (.name (String.ofList domain))) = (.ok host : Except UrlError Host)) ↔
      (V4.endsInNumber domain = true ∧ ∃ a, V4.read? domain = some a ∧ host = .v4 a) ∨
        (V4.endsInNumber domain = false ∧ host = .name (String.ofList domain)) := by
  cases V4.endsInNumber domain <;> cases V4.read? domain <;> simp [eq_comm]

theorem readName_eq_ok_iff {cs : List Char} {host : Host} :
    readName cs = .ok host ↔ Names ((percentDecode cs).map Char.toLower) host := by
  rw [readName, ← any_isBarred_map_toLower]
  generalize (percentDecode cs).map Char.toLower = domain
  simp only [ite_error_eq_ok_iff, List.any_eq_true, not_exists, not_and, Bool.not_eq_true,
    Bool.not_eq_false', List.isEmpty_eq_false_iff]
  exact ⟨fun ⟨hplain, hsound, hne, h⟩ => ⟨hplain, hsound, hne, addressOrName_eq_ok_iff.1 h⟩,
    fun h => ⟨h.plain, h.sound, h.nonempty, addressOrName_eq_ok_iff.2 h.host⟩⟩

theorem Names.readName_eq {domain : List Char} {host : Host} (h : Names domain host)
    (hlower : ∀ c ∈ domain, c.toLower = c) : readName domain = .ok host := by
  have hpercent : '%' ∉ domain := fun hmem => absurd (h.plain '%' hmem) (by decide)
  have hdomain : (percentDecode domain).map Char.toLower = domain := by
    rw [percentDecode_of_notMem hpercent, List.map_congr_left hlower, List.map_id']
  rw [readName_eq_ok_iff, hdomain]
  exact h

theorem digit_or_dot_of_mem_text {address : Nat} {c : Char} (h : c ∈ (V4.text address).toList) :
    c.isDigit = true ∨ c = '.' := by
  rcases Text.exists_mem_pieces (p := (· == '.')) h with hdot | ⟨w, hw, hc⟩
  · exact .inr (beq_iff_eq.1 hdot)
  · rw [V4.pieces_text] at hw
    obtain ⟨n, -, rfl⟩ := List.mem_map.1 hw
    exact .inl (isDigit_of_mem_toDigits hc)

theorem areSound_bytes (address : Nat) :
    Label.areSound ((V4.bytes address).map (Nat.toDigits 10)) = true := by
  have hlabel : ∀ n < 256, Label.text? (Nat.toDigits 10 n) = some (Nat.toDigits 10 n) ∧
      ((Nat.toDigits 10 n).map Label.Direction.ofChar).any Label.Direction.isRightward = false := by
    decide +kernel
  have htexts : ((V4.bytes address).map (Nat.toDigits 10)).mapM Label.text? =
      some ((V4.bytes address).map (Nat.toDigits 10)) := by
    rw [mapM_eq_some_iff, List.forall₂_same, List.forall_mem_map]
    exact fun n hn => (hlabel n (V4.lt_of_mem_bytes hn)).1
  have hleft : (((V4.bytes address).map (Nat.toDigits 10)).map
      (·.map Label.Direction.ofChar)).any (·.any Label.Direction.isRightward) = false := by
    rw [List.any_eq_false, List.forall_mem_map, List.forall_mem_map]
    intro n hn
    rw [(hlabel n (V4.lt_of_mem_bytes hn)).2]
    exact Bool.false_ne_true
  rw [Label.areSound, htexts]
  simp only [hleft, Bool.not_false, Bool.true_or]

theorem names_text {address : Nat} (h : address < 2 ^ 32) :
    Names (V4.text address).toList (.v4 address) where
  plain c hc := by
    rcases digit_or_dot_of_mem_text hc with hdigit | rfl
    · have hcode := Text.isDigit_iff.1 hdigit
      rw [Bool.eq_false_iff, ne_eq, isBarred_iff]
      simp only [List.mem_cons, List.not_mem_nil, or_false]
      omega
    · decide
  sound := by rw [V4.pieces_text, areSound_bytes]
  nonempty hnil := by
    have hnumber := V4.endsInNumber_text address
    rw [hnil] at hnumber
    cases hnumber
  host := .inl ⟨V4.endsInNumber_text address, address, V4.read?_text h, rfl⟩

/-- What reads the names of hosts: nothing that delimits a host is in a name, and the text of what
is read is read back. -/
structure IsNameReader (readName : Host.NameReader) : Prop where
  word {cs : List Char} {host : Host} (h : readName cs = .ok host) :
    cs ≠ [] ∧ ∀ c ∈ cs, isDelimiter c = false
  readsBack {cs : List Char} {host : Host} (h : readName cs = .ok host) :
    readName host.text.toList = .ok host

theorem isNameReader_readName : IsNameReader readName where
  word {cs host} h := by
    have hnames := readName_eq_ok_iff.1 h
    constructor
    · rintro rfl
      exact hnames.nonempty rfl
    · intro c hc
      by_contra hdelimiter
      obtain ⟨hbarred, hpercent, hhex⟩ := isBarred_of_isDelimiter (eq_true_of_ne_false hdelimiter)
      have hplain := hnames.plain _ (List.mem_map_of_mem (mem_percentDecode hc hpercent hhex))
      rw [isBarred_toLower, hbarred] at hplain
      cases hplain
  readsBack {cs host} h := by
    have hnames := readName_eq_ok_iff.1 h
    rcases hnames.host with ⟨-, address, hread, rfl⟩ | ⟨-, rfl⟩
    · apply (names_text (V4.lt_of_read? hread)).readName_eq
      intro c hc
      rcases digit_or_dot_of_mem_text hc with hdigit | rfl
      · have hcode := Text.isDigit_iff.1 hdigit
        apply Char.toNat_inj.1
        rw [Text.toNat_toLower, if_neg (by omega)]
      · rfl
    · rw [text, String.toList_ofList]
      apply hnames.readName_eq
      intro c hc
      obtain ⟨d, -, rfl⟩ := List.mem_map.1 hc
      exact Text.toLower_toLower d

/-- A host is a word without delimiters, or it stands in brackets. -/
inductive IsWritten : List Char → Prop
  | word {cs : List Char} (hne : cs ≠ []) (h : ∀ c ∈ cs, isDelimiter c = false) : IsWritten cs
  | bracketed {inner : List Char} (h : ∀ c ∈ inner, V6.IsPlain c) :
      IsWritten ('[' :: (inner ++ [']']))

section Readers

variable {readName : Host.NameReader} {cs : List Char} {host : Host}

theorem bracketed?_of_word (h : ∀ c ∈ cs, isDelimiter c = false) : bracketed? cs = none := by
  unfold bracketed?
  split
  · exact absurd (h '[' List.mem_cons_self) (by decide)
  · rfl

theorem bracketed?_bracketed (inner : List Char) :
    bracketed? ('[' :: (inner ++ [']'])) =
      some (match V6.read? inner with
        | some pieces => .ok (.v6 pieces)
        | none => .error .addressV6) := by
  rw [bracketed?, List.getLast?_concat, if_pos rfl, List.dropLast_concat]
  cases V6.read? inner <;> rfl

theorem bracketed?_eq_some_ok (h : bracketed? cs = some (.ok host)) :
    ∃ inner pieces, cs = '[' :: (inner ++ [']']) ∧ V6.read? inner = some pieces ∧
      host = .v6 pieces := by
  unfold bracketed? at h
  split at h
  · rename_i rest
    split at h
    · rename_i hlast
      obtain ⟨inner, rfl⟩ := List.getLast?_eq_some_iff.1 hlast
      rw [List.dropLast_concat] at h
      split at h
      · rename_i pieces hread
        cases h
        exact ⟨inner, pieces, rfl, hread, rfl⟩
      · cases h
    · cases h
  · cases h

theorem readDomain_eq_ok_iff :
    readDomain readName cs = .ok host ↔
      bracketed? cs = some (.ok host) ∨ (bracketed? cs = none ∧ readName cs = .ok host) := by
  rw [readDomain]
  cases bracketed? cs <;> simp

theorem isWritten_of_bracketed? (h : bracketed? cs = some (.ok host)) : IsWritten cs := by
  obtain ⟨inner, pieces, rfl, hread, -⟩ := bracketed?_eq_some_ok h
  exact .bracketed (V6.read?_eq_some hread).1

theorem isWritten_of_readDomain (hname : IsNameReader readName)
    (h : readDomain readName cs = .ok host) : IsWritten cs := by
  rcases readDomain_eq_ok_iff.1 h with hbracketed | ⟨-, hread⟩
  · exact isWritten_of_bracketed? hbracketed
  · exact .word (hname.word hread).1 (hname.word hread).2

theorem isWritten_of_readOpaque (hne : cs ≠ []) (h : readOpaque cs = .ok host) : IsWritten cs := by
  unfold readOpaque at h
  split at h
  · rename_i r hbracketed
    exact isWritten_of_bracketed? (h ▸ hbracketed)
  · rw [ite_error_eq_ok_iff, Bool.not_eq_true, List.any_eq_false] at h
    exact .word hne fun c hc => Bool.eq_false_iff.2 (h.1 c hc)

theorem readDomain_text (hname : IsNameReader readName) (h : readDomain readName cs = .ok host) :
    readDomain readName host.text.toList = .ok host := by
  rcases readDomain_eq_ok_iff.1 h with hbracketed | ⟨-, hread⟩
  · obtain ⟨inner, pieces, -, hread, rfl⟩ := bracketed?_eq_some_ok hbracketed
    obtain ⟨-, hlength, hlt⟩ := V6.read?_eq_some hread
    have htext : (text (.v6 pieces)).toList = '[' :: ((V6.text pieces).toList ++ [']']) := by
      rw [text, String.toList_append, String.toList_append]
      rfl
    rw [readDomain, htext, bracketed?_bracketed, V6.read?_text hlength hlt]
  · have hback := hname.readsBack hread
    rw [readDomain_eq_ok_iff]
    exact .inr ⟨bracketed?_of_word (hname.word hback).2, hback⟩

theorem text_ne_empty_of_readDomain (hname : IsNameReader readName)
    (h : readDomain readName cs = .ok host) : host.text ≠ "" := by
  intro hempty
  have hback := readDomain_text hname h
  rw [hempty] at hback
  cases isWritten_of_readDomain hname hback with
  | word hne _ => exact hne rfl

theorem percentEncode_ne_nil {isEncoded : Char → Bool} (h : cs ≠ []) :
    percentEncode isEncoded cs ≠ [] := by
  obtain ⟨c, cs, rfl⟩ := List.exists_cons_of_ne_nil h
  have hchar : encodedChar isEncoded c ≠ [] := by
    rw [encodedChar]
    split
    · obtain ⟨b, bs, hbs⟩ :=
        List.exists_cons_of_ne_nil (String.utf8EncodeChar_ne_nil (c := c))
      rw [hbs, List.flatMap_cons]
      exact List.cons_ne_nil _ _
    · exact List.cons_ne_nil _ _
  rw [percentEncode, List.flatMap_cons]
  exact List.append_ne_nil_of_left_ne_nil hchar _

theorem text_ne_empty_of_readOpaque (hne : cs ≠ []) (h : readOpaque cs = .ok host) :
    host.text ≠ "" := by
  intro hempty
  unfold readOpaque at h
  split at h
  · rename_i r hbracketed
    obtain ⟨inner, pieces, -, -, rfl⟩ := bracketed?_eq_some_ok (h ▸ hbracketed)
    have hfront := congrArg String.toList hempty
    rw [text, String.toList_append, String.toList_append] at hfront
    cases hfront
  · rw [ite_error_eq_ok_iff] at h
    cases h.2
    rw [text] at hempty
    have hchars := congrArg String.toList hempty
    rw [String.toList_ofList] at hchars
    exact percentEncode_ne_nil hne hchars

end Readers

end Host

end Url

end TracerSettings
