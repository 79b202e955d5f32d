import TracerSettings.Proofs.Url.Parts

namespace TracerSettings.Url

variable {readName : Host.NameReader} {p : Parts} {raw : String} {u : Url}

theorem readDomain_of_fileHost {cs : List Char} {host : Host}
    (h : fileHost readName cs = .ok (some host)) : Host.readDomain readName cs = .ok host := by
  simp only [fileHost, bind, Except.bind, pure, Except.pure] at h
  split at h
  · cases h
  · split at h
    · cases h
    · rename_i host' hread
      split at h
      · cases h
      · cases h
        exact hread

theorem port_of_readFile {cs : List Char} (h : readFile readName cs = .ok u) : u.port = none := by
  unfold readFile at h
  split at h
  · split at h
    · simp only [bind, Except.bind, pure, Except.pure] at h
      split at h
      · cases h
      · cases h
        rfl
    · cases h
      rfl
  · cases h
    rfl

theorem readFile_eq_ok {cs : List Char} {host : Host} (h : readFile readName cs = .ok u)
    (hhost : u.host = some host) :
    u.scheme = "file" ∧ u.port = none ∧ ∃ a b rest, cs = a :: b :: rest ∧
      Path.isSlash true a = true ∧ Path.isSlash true b = true ∧
      Host.readDomain readName (rest.takeWhile (!endsAuthority true ·)) = .ok host := by
  unfold readFile at h
  split at h
  · rename_i a b rest
    split at h
    · rename_i hslashes
      rw [Bool.and_eq_true] at hslashes
      simp only [bind, Except.bind, pure, Except.pure] at h
      split at h
      · cases h
      · rename_i host' hfile
        cases h
        simp only [ite_eq_iff, reduceCtorEq, and_false, false_or] at hhost
        refine ⟨rfl, rfl, a, b, rest, rfl, hslashes.1, hslashes.2, ?_⟩
        exact readDomain_of_fileHost (hhost.2 ▸ hfile)
    · cases h
      cases hhost
  · cases h
    cases hhost

theorem readWith_of_file {cs : List Char} {host : Host}
    (hscheme : scheme? (stripped raw.toList) = some ("file", cs))
    (hread : readWith readName raw = .ok u) (hhost : u.host = some host) :
    u.scheme = "file" ∧ u.port = none ∧ ∃ a b rest, cs = a :: b :: rest ∧
      Path.isSlash true a = true ∧ Path.isSlash true b = true ∧
      Host.readDomain readName (rest.takeWhile (!endsAuthority true ·)) = .ok host := by
  rw [readWith, hscheme] at hread
  exact readFile_eq_ok hread hhost

theorem Parts.Writes.port_eq_none (hname : Host.IsNameReader readName) (h : p.Writes raw)
    (hfile : p.schemeName = "file") (hread : readWith readName raw = .ok u) {host : Host}
    (hhost : u.host = some host) : u.scheme = "file" ∧ u.port = none ∧ p.port = none := by
  have hscheme := h.scheme?_eq
  rw [hfile] at hscheme
  obtain ⟨hname', hport, a, b, rest, hcs, -, -, hdomain⟩ := readWith_of_file hscheme hread hhost
  refine ⟨hname', hport, ?_⟩
  obtain ⟨c, d, hslashes⟩ := h.delimited.slashes.eq_pair hfile
  rw [hslashes] at hcs
  obtain rfl : p.authority ++ p.rest = rest := (List.cons.inj (List.cons.inj hcs).2).2
  have hweb : p.web = true := by rw [Parts.web, hfile]; rfl
  have htake : (p.authority ++ p.rest).takeWhile (!endsAuthority true ·) = p.authority := by
    apply Text.takeWhile_append_stop
    · intro c hc
      have hend := h.delimited.authority_eq hc
      rw [hweb] at hend
      rw [hend, Bool.not_false]
    · intro c hc
      have hend := h.delimited.rest c hc
      rw [hweb, Bool.true_or] at hend
      rw [hend, Bool.not_true]
  rw [htake] at hdomain
  have hwritten := Host.isWritten_of_readDomain hname hdomain
  rw [Option.eq_none_iff_forall_ne_some]
  intro digits hdigits
  have hauthority : p.authority = p.userText ++ p.host ++ ':' :: digits := by
    rw [Parts.authority, Parts.portText, hdigits, List.append_assoc]
    rfl
  rw [hauthority] at hwritten
  exact not_isWritten_append (h.delimited.port digits hdigits) hwritten

theorem Parts.Writes.port_eq (hname : Host.IsNameReader readName) (h : p.Writes raw)
    (hread : readWith readName raw = .ok u) {host : Host} (hhost : u.host = some host) :
    u.scheme = p.schemeName ∧ u.port = p.port.bind (keptPort p.schemeName) := by
  by_cases hfile : p.schemeName = "file"
  · obtain ⟨hscheme, hport, hnone⟩ := h.port_eq_none hname hfile hread hhost
    rw [hscheme, hfile, hport, hnone]
    exact ⟨rfl, rfl⟩
  · obtain ⟨host', port, -, hport, rfl⟩ := (readWith_eq_ok_iff h hfile).1 hread
    refine ⟨rfl, ?_⟩
    rw [Parts.readPort] at hport
    cases hdigits : p.port with
    | none =>
        rw [hdigits] at hport
        cases hport
        rfl
    | some digits =>
        rw [hdigits] at hport
        exact (Except.ok.inj (Host.ite_error_eq_ok_iff.1 hport).2).symm

theorem text_ne_empty_of_readHost (hname : Host.IsNameReader readName) {web : Bool}
    {cs : List Char} {host : Host} (hne : cs ≠ []) (h : readHost readName web cs = .ok host) :
    host.text ≠ "" := by
  cases web with
  | false => exact Host.text_ne_empty_of_readOpaque hne h
  | true => exact Host.text_ne_empty_of_readDomain hname h

theorem port_of_tail {scheme : String} {rest : List Char} {f : Option Nat × List Char → Url}
    (h : (match rest with
      | ':' :: rest => (readPort scheme rest).bind fun r => .ok (f r)
      | _ => .ok (f (none, rest))) = .ok u) :
    (∃ r, u = f r ∧ ∀ n ∈ r.1, n ≤ 65535) ∧ ∃ (port : Option (List Char)) (back : List Char),
      rest = (port.map (':' :: ·)).getD [] ++ back ∧ (∀ ds ∈ port, ∀ c ∈ ds, c.isDigit = true) ∧
        ∀ c ∈ back.head?, endsAuthority true c = true ∨ (port = none ∧ c ≠ ':') := by
  split at h
  · rename_i rest
    cases hread : readPort scheme rest with
    | error e =>
        rw [hread] at h
        cases h
    | ok r =>
        rw [hread] at h
        cases h
        obtain ⟨digits, hcs, hdigits, hback⟩ := readPort_eq_ok hread
        refine ⟨⟨r, rfl, le_of_readPort hread⟩, some digits, r.2, congrArg (':' :: ·) hcs, ?_,
          fun c hc => .inl (hback c hc)⟩
        rintro ds ⟨⟩
        exact hdigits
  · rename_i hcolon
    cases h
    refine ⟨⟨_, rfl, by simp⟩, none, rest, rfl, by simp, fun c hc => .inr ⟨rfl, ?_⟩⟩
    rintro rfl
    obtain ⟨back, hback⟩ := List.head?_eq_some_iff.1 hc
    exact hcolon back hback

theorem readAuthority_eq_ok {scheme : String} {cs : List Char}
    (h : readAuthority readName scheme cs = .ok u) :
    ∃ hasUser hostText rest host, skipUser (isWeb scheme) cs = .ok (hasUser, hostText ++ rest) ∧
      cutHost (isWeb scheme) false (hostText ++ rest) = (hostText, rest) ∧
      readHost readName (isWeb scheme) hostText = .ok host ∧
      u.host = (if hostText.isEmpty then none else some host) ∧ (∀ n ∈ u.port, n ≤ 65535) ∧
      ∃ (port : Option (List Char)) (back : List Char),
        rest = (port.map (':' :: ·)).getD [] ++ back ∧ (∀ ds ∈ port, ∀ c ∈ ds, c.isDigit = true) ∧
          ∀ c ∈ back.head?, endsAuthority true c = true ∨ (port = none ∧ c ≠ ':') := by
  simp only [readAuthority, bind, Except.bind] at h
  split at h
  · cases h
  · rename_i result hskip
    obtain ⟨hasUser, cs'⟩ := result
    rcases hcut : cutHost (isWeb scheme) false cs' with ⟨hostText, rest⟩
    obtain ⟨rfl, -⟩ := cutHost_eq hcut
    simp only [hcut] at h
    split at h
    · cases h
    · have htail : ∃ v, readHost readName (isWeb scheme) hostText = .ok v ∧
          (match rest with
            | ':' :: rest => (readPort scheme rest).bind fun r =>
                .ok (⟨scheme, if hostText.isEmpty then none else some v, r.1,
                  String.ofList (pathAfterAuthority (isWeb scheme) r.2)⟩ : Url)
            | _ => .ok ⟨scheme, if hostText.isEmpty then none else some v, none,
                String.ofList (pathAfterAuthority (isWeb scheme) rest)⟩) = .ok u := by
        rw [readHost]
        split at h
        · rename_i hweb
          rw [if_pos hweb]
          split at h
          · cases h
          · exact ⟨_, ‹_›, h⟩
        · rename_i hweb
          rw [if_neg hweb]
          split at h
          · cases h
          · exact ⟨_, ‹_›, h⟩
      obtain ⟨v, hread, htail⟩ := htail
      obtain ⟨⟨r, rfl, hle⟩, hport⟩ := port_of_tail (f := fun r => ⟨scheme,
        if hostText.isEmpty then none else some v, r.1,
        String.ofList (pathAfterAuthority (isWeb scheme) r.2)⟩) htail
      exact ⟨hasUser, hostText, rest, v, hskip, hcut, hread, rfl, hle, hport⟩

theorem isWritten_of_readHost (hname : Host.IsNameReader readName) {web : Bool} {cs : List Char}
    {host : Host} (hne : cs ≠ []) (h : readHost readName web cs = .ok host) :
    Host.IsWritten cs := by
  cases web with
  | false => exact Host.isWritten_of_readOpaque hne h
  | true => exact Host.isWritten_of_readDomain hname h

theorem endsAuthority_of_tail {web : Bool} {port : Option (List Char)} {back : List Char}
    (hstop : ∀ c ∈ ((port.map (':' :: ·)).getD [] ++ back).head?, endsAuthority web c = true ∨ c = ':')
    (hback : ∀ c ∈ back.head?, endsAuthority true c = true ∨ (port = none ∧ c ≠ ':')) :
    ∀ c ∈ back.head?, endsAuthority (web || port.isSome) c = true := by
  intro c hc
  cases port with
  | none =>
      rw [Option.isSome_none, Bool.or_false]
      rcases hstop c hc with hend | rfl
      · exact hend
      · rcases hback _ hc with hend | ⟨-, hne⟩
        · exact absurd hend (by decide)
        · exact absurd rfl hne
  | some digits =>
      rw [Option.isSome_some, Bool.or_true]
      exact (hback c hc).resolve_right fun h => absurd h.1 (by simp)

theorem exists_of_readAuthority (hname : Host.IsNameReader readName) {name slashes cs : List Char}
    (hletter : name.head?.any Char.isAlpha = true) (hall : ∀ c ∈ name, isSchemeCharacter c = true)
    {scheme : String} (hscheme : String.ofList (name.map Char.toLower) = scheme)
    (hfile : scheme ≠ "file") (hslashes : Slashes scheme slashes)
    (hread : readAuthority readName scheme cs = .ok u) {host : Host} (hhost : u.host = some host) :
    ∃ p : Parts, p.Delimited ∧ p.text = name ++ ':' :: (slashes ++ cs) := by
  obtain ⟨hasUser, hostText, rest, host', hskip, hcut, hhostText, hhost', -, port, back, rfl,
    hdigits, hback⟩ := readAuthority_eq_ok hread
  rw [hhost, eq_comm, Option.ite_none_left_eq_some, List.isEmpty_iff] at hhost'
  have hwritten := isWritten_of_readHost hname hhost'.1 hhostText
  obtain ⟨hlast, user, rfl, huser⟩ := skipUser_eq_ok hskip
  obtain ⟨-, hstop⟩ := cutHost_eq hcut
  have hweb : Parts.web ⟨name, slashes, user, hostText, port, back⟩ = isWeb scheme := by
    rw [Parts.web, Parts.schemeName, hscheme, beq_false_of_ne hfile, Bool.false_or]
  refine ⟨⟨name, slashes, user, hostText, port, back⟩, ?_, ?_⟩
  · constructor
    case letter => exact hletter
    case scheme => exact hall
    case slashes =>
      rw [Parts.schemeName, hscheme]
      exact hslashes
    case user =>
      rw [hweb]
      exact huser
    case host => exact hwritten
    case port => exact hdigits
    case last =>
      rw [hweb]
      exact hlast
    case rest =>
      rw [hweb]
      exact endsAuthority_of_tail hstop hback
  · show name ++ ':' :: (slashes ++ ((_ ++ (hostText ++ _)) ++ back)) = _
    rw [List.append_assoc, List.append_assoc]
    rfl

theorem exists_of_readFile (hname : Host.IsNameReader readName) {name cs : List Char}
    (hletter : name.head?.any Char.isAlpha = true) (hall : ∀ c ∈ name, isSchemeCharacter c = true)
    (hscheme : String.ofList (name.map Char.toLower) = "file")
    (hread : readFile readName cs = .ok u) {host : Host} (hhost : u.host = some host) :
    ∃ p : Parts, p.Delimited ∧ p.text = name ++ ':' :: cs := by
  obtain ⟨-, -, a, b, rest, rfl, ha, hb, hdomain⟩ := readFile_eq_ok hread hhost
  have hwritten := Host.isWritten_of_readDomain hname hdomain
  have hweb : Parts.web ⟨name, [a, b], none, rest.takeWhile (!endsAuthority true ·), none,
      rest.dropWhile (!endsAuthority true ·)⟩ = true := by
    rw [Parts.web, Parts.schemeName, hscheme]
    rfl
  refine ⟨⟨name, [a, b], none, rest.takeWhile (!endsAuthority true ·), none,
    rest.dropWhile (!endsAuthority true ·)⟩, ?_, ?_⟩
  · constructor
    case letter => exact hletter
    case scheme => exact hall
    case slashes => exact .file hscheme ha hb
    case user => exact fun user huser => absurd huser (by simp)
    case host => exact hwritten
    case port => exact fun digits hdigits => absurd hdigits (by simp)
    case last =>
      rw [hweb]
      show '@' ∉ List.takeWhile _ (_ ++ ([] ++ _))
      rw [List.nil_append, List.takeWhile_append_dropWhile]
      exact hwritten.at_notMem
    case rest =>
      intro c hc
      rw [hweb]
      have hstop := Text.false_of_mem_head?_dropWhile hc
      simpa using hstop
  · show name ++ ':' :: ([a, b] ++ (([] ++ (_ ++ [])) ++ _)) = _
    rw [List.nil_append, List.append_nil, List.takeWhile_append_dropWhile]
    rfl

/-- Where a host is read, the parts are written. -/
theorem exists_writes (hname : Host.IsNameReader readName) (hread : readWith readName raw = .ok u)
    {host : Host} (hhost : u.host = some host) : ∃ p : Parts, p.Writes raw := by
  cases hscheme : scheme? (stripped raw.toList) with
  | none =>
      rw [readWith, hscheme] at hread
      cases hread
  | some cut =>
      obtain ⟨scheme, cs⟩ := cut
      obtain ⟨name, hletter, hall, hlower, htext⟩ := scheme?_eq_some_iff.1 hscheme
      rw [readWith, hscheme] at hread
      by_cases hfile : scheme = "file"
      · subst hfile
        obtain ⟨p, hp, hptext⟩ := exists_of_readFile hname hletter hall hlower hread hhost
        exact ⟨p, hp, htext.trans hptext.symm⟩
      · simp only [hfile, if_false] at hread
        split at hread
        · rename_i hweb
          obtain ⟨p, hp, hptext⟩ := exists_of_readAuthority hname hletter hall hlower hfile
            (.web hweb fun c => List.mem_takeWhile_imp) hread hhost
          refine ⟨p, hp, ?_⟩
          rw [htext, hptext, List.takeWhile_append_dropWhile]
        · rename_i hweb
          split at hread
          · obtain ⟨p, hp, hptext⟩ := exists_of_readAuthority hname hletter hall hlower hfile
              (.two hfile (Bool.eq_false_iff.2 hweb)) hread hhost
            exact ⟨p, hp, htext.trans hptext.symm⟩
          · cases hread
            cases hhost

theorem text_ne_empty (hname : Host.IsNameReader readName) (hread : readWith readName raw = .ok u)
    {host : Host} (hhost : u.host = some host) : host.text ≠ "" := by
  obtain ⟨p, hp⟩ := exists_writes hname hread hhost
  by_cases hfile : p.schemeName = "file"
  · have hscheme := hp.scheme?_eq
    rw [hfile] at hscheme
    obtain ⟨-, -, a, b, rest, -, -, -, hdomain⟩ := readWith_of_file hscheme hread hhost
    exact Host.text_ne_empty_of_readDomain hname hdomain
  · obtain ⟨host', port, hreadHost, -, rfl⟩ := (readWith_eq_ok_iff hp hfile).1 hread
    cases hhost
    exact text_ne_empty_of_readHost hname hp.delimited.host.ne_nil hreadHost

theorem port_le_of_readWith (hread : readWith readName raw = .ok u) : ∀ n ∈ u.port, n ≤ 65535 := by
  rw [readWith] at hread
  split at hread
  · cases hread
  · have hauthority {scheme : String} {cs : List Char}
        (h : readAuthority readName scheme cs = .ok u) : ∀ n ∈ u.port, n ≤ 65535 := by
      obtain ⟨-, -, -, -, -, -, -, -, hle, -⟩ := readAuthority_eq_ok h
      exact hle
    split at hread
    · rw [port_of_readFile hread]
      simp
    · split at hread
      · exact hauthority hread
      · split at hread
        · exact hauthority hread
        · cases hread
          simp [readPath]

end TracerSettings.Url
