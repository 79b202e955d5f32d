import TracerSettings.Proofs.Url.Written

namespace TracerSettings.Url

open Text (isBlank)

variable {c : Char} {cs : List Char}

theorem not_isBlank_of_mem_encodedByte {b : UInt8} (h : c ∈ encodedByte b) : isBlank c = false := by
  have hall : ∀ n < 256,
      ('%' :: (Text.hexDigits 2 n).map Char.toUpper).all (fun c => !isBlank c) = true := by
    decide +kernel
  simpa using List.all_eq_true.1 (hall b.toNat b.toNat_lt) c h

theorem plain_of_mem_percentEncode {isEncoded : Char → Bool} (h : c ∈ percentEncode isEncoded cs)
    (hblank : isBlank c = true) : isEncoded c = false ∧ c.toNat < 0x80 := by
  obtain ⟨d, -, hd⟩ := List.mem_flatMap.1 h
  unfold encodedChar at hd
  split at hd
  · obtain ⟨b, -, hb⟩ := List.mem_flatMap.1 hd
    exact absurd hblank (by rw [not_isBlank_of_mem_encodedByte hb]; decide)
  · rename_i hplain
    obtain rfl := List.mem_singleton.1 hd
    simpa using hplain

theorem eq_space_of_isBlank (h : isBlank c = true) (hcontrol : isControl c = false)
    (hascii : c.toNat < 0x80) : c = ' ' := by
  apply Char.toNat_inj.1
  simp only [isBlank, isControl, Bool.or_eq_true, Bool.and_eq_true, decide_eq_true_eq, beq_iff_eq,
    Bool.or_eq_false_iff, decide_eq_false_iff_not] at h hcontrol
  have hspace : ' '.toNat = 32 := rfl
  omega

namespace Path

theorem mem_of_mem_up {segment : List Char} {done : List (List Char)} (h : segment ∈ up done) :
    segment ∈ done := by
  cases done with
  | nil => exact h
  | cons last done =>
      rw [up] at h
      split at h
      · exact h
      · exact List.mem_cons_of_mem last h

theorem mem_of_mem_resolve {segment : List Char} {done segments : List (List Char)}
    (h : segment ∈ resolve done segments) : segment = [] ∨ segment ∈ done ∨ segment ∈ segments := by
  induction done, segments using resolve.induct with
  | case1 done => exact .inr (.inl (List.mem_reverse.1 h))
  | case2 done last hdouble =>
      rw [resolve, if_pos hdouble, List.mem_reverse, List.mem_cons] at h
      exact h.imp_right fun h => .inl (mem_of_mem_up h)
  | case3 done last hdouble hsingle =>
      rw [resolve, if_neg hdouble, if_pos hsingle, List.mem_reverse, List.mem_cons] at h
      exact h.imp_right .inl
  | case4 done last hdouble hsingle =>
      rw [resolve, if_neg hdouble, if_neg hsingle, List.mem_reverse, List.mem_cons] at h
      rcases h with rfl | hdone
      · exact .inr (.inr (List.mem_singleton_self segment))
      · exact .inr (.inl hdone)
  | case5 done first rest hrest hdouble ih =>
      rw [resolve, if_pos hdouble] at h
      · exact (ih h).imp_right fun h => h.imp mem_of_mem_up (List.mem_cons_of_mem first)
      · exact hrest
  | case6 done first rest hrest hdouble hsingle ih =>
      rw [resolve, if_neg hdouble, if_pos hsingle] at h
      · exact (ih h).imp_right fun h => h.imp_right (List.mem_cons_of_mem first)
      · exact hrest
  | case7 done first rest hrest hdouble hsingle ih =>
      rw [resolve, if_neg hdouble, if_neg hsingle] at h
      · rcases ih h with hempty | hdone | hmem
        · exact .inl hempty
        · rcases List.mem_cons.1 hdone with rfl | hdone
          · exact .inr (.inr List.mem_cons_self)
          · exact .inr (.inl hdone)
        · exact .inr (.inr (List.mem_cons_of_mem first hmem))
      · exact hrest

theorem not_isBlank_of_mem_read {web : Bool} (h : c ∈ read web cs) : isBlank c = false := by
  obtain ⟨segment, hsegment, hc⟩ := List.mem_flatMap.1 h
  rcases List.mem_cons.1 hc with rfl | hc
  · decide
  · rw [Bool.eq_false_iff]
    intro hblank
    rcases mem_of_mem_resolve hsegment with rfl | hdone | hmem
    · exact absurd hc List.not_mem_nil
    · exact absurd hdone List.not_mem_nil
    · obtain ⟨piece, -, rfl⟩ := List.mem_map.1 hmem
      obtain ⟨hencoded, hascii⟩ := plain_of_mem_percentEncode hc hblank
      obtain ⟨hcontrol, hspace⟩ := Bool.or_eq_false_iff.1 hencoded
      rw [eq_space_of_isBlank hblank hcontrol hascii] at hspace
      exact absurd hspace (by decide)

end Path

/-- A path begins at a root and holds no blank, or does not and holds none but the plain one. -/
structure BlanksOfPath (path : List Char) : Prop where
  space : ∀ c ∈ path, isBlank c = true → c = ' '
  rooted : path.head? = some '/' → ∀ c ∈ path, isBlank c = false

theorem blanksOfPath_of_forall (h : ∀ c ∈ cs, isBlank c = false) : BlanksOfPath cs :=
  ⟨fun c hc hblank => absurd hblank (by rw [h c hc]; decide), fun _ => h⟩

theorem blanksOfPath_read (web : Bool) (cs : List Char) : BlanksOfPath (Path.read web cs) :=
  blanksOfPath_of_forall fun _ => Path.not_isBlank_of_mem_read

theorem blanksOfPath_pathAfterAuthority (web : Bool) (cs : List Char) :
    BlanksOfPath (pathAfterAuthority web cs) := by
  cases cs with
  | nil => exact blanksOfPath_of_forall (by cases web <;> simp [pathAfterAuthority, isBlank])
  | cons c cs =>
      rw [pathAfterAuthority]
      split
      · exact blanksOfPath_read web cs
      · split
        · exact blanksOfPath_of_forall (by simp)
        · exact blanksOfPath_read web (c :: cs)

theorem blanksOfPath_filePath (cs : List Char) : BlanksOfPath (filePath cs) := by
  cases cs with
  | nil => exact blanksOfPath_of_forall (by simp [filePath, isBlank])
  | cons c cs =>
      rw [filePath]
      split <;> exact blanksOfPath_read true _

section Readers

variable {readName : Host.NameReader} {scheme : String} {u : Url}

theorem blanksOfPath_readAuthority (h : readAuthority readName scheme cs = .ok u) :
    BlanksOfPath u.path.toList := by
  have hpath (rest : List Char) :
      BlanksOfPath (String.ofList (pathAfterAuthority (isWeb scheme) rest)).toList := by
    rw [String.toList_ofList]
    exact blanksOfPath_pathAfterAuthority _ rest
  simp only [readAuthority, bind, Except.bind] at h
  split at h
  · cases h
  · split at h
    · cases h
    · split at h <;> split at h
      · cases h
      · obtain ⟨⟨r, rfl, -⟩, -⟩ := port_of_tail (f := fun r => ⟨scheme, _, r.1,
          String.ofList (pathAfterAuthority (isWeb scheme) r.2)⟩) h
        exact hpath r.2
      · cases h
      · obtain ⟨⟨r, rfl, -⟩, -⟩ := port_of_tail (f := fun r => ⟨scheme, _, r.1,
          String.ofList (pathAfterAuthority (isWeb scheme) r.2)⟩) h
        exact hpath r.2

theorem blanksOfPath_readFile (h : readFile readName cs = .ok u) : BlanksOfPath u.path.toList := by
  have hpath (rest : List Char) : BlanksOfPath (String.ofList (filePath rest)).toList := by
    rw [String.toList_ofList]
    exact blanksOfPath_filePath rest
  simp only [readFile, bind, Except.bind, pure, Except.pure] at h
  split at h
  · split at h
    · split at h
      · cases h
      · cases h
        exact hpath _
    · cases h
      exact hpath _
  · cases h
    exact hpath _

theorem blanksOfPath_readPath (scheme : String) (cs : List Char) :
    BlanksOfPath (readPath scheme cs).path.toList := by
  unfold readPath
  rw [String.toList_ofList]
  split
  · exact blanksOfPath_read false _
  · rename_i hslash
    constructor
    · intro c hc hblank
      obtain ⟨hcontrol, hascii⟩ := plain_of_mem_percentEncode hc hblank
      exact eq_space_of_isBlank hblank hcontrol hascii
    · intro hhead
      exfalso
      -- An encoded character begins with the mark of encodings, and a plain slash does not stand
      -- in front.
      cases cs with
      | nil => cases hhead
      | cons c cs =>
          rw [List.takeWhile_cons] at hhead
          split at hhead
          · rw [percentEncode, List.flatMap_cons, encodedChar] at hhead
            split at hhead
            · obtain ⟨b, bs, hbs⟩ :=
                List.exists_cons_of_ne_nil (String.utf8EncodeChar_ne_nil (c := c))
              rw [hbs, List.flatMap_cons] at hhead
              exact absurd (Option.some.inj hhead) (by decide)
            · exact hslash cs (by rw [Option.some.inj hhead])
          · cases hhead

theorem blanksOfPath_readWith {raw : String} (h : readWith readName raw = .ok u) :
    BlanksOfPath u.path.toList := by
  rw [readWith] at h
  split at h
  · cases h
  · split at h
    · exact blanksOfPath_readFile h
    · split at h
      · exact blanksOfPath_readAuthority h
      · split at h
        · exact blanksOfPath_readAuthority h
        · cases h
          exact blanksOfPath_readPath _ _

end Readers

end TracerSettings.Url
