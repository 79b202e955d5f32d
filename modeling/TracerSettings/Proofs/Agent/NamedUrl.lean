import TracerSettings.FileSystem
import TracerSettings.Proofs.Agent.Endpoint
import TracerSettings.Proofs.Build.Failure
import TracerSettings.Proofs.Url.Written

namespace TracerSettings

namespace Url

/-- A host that is spelt as hosts of the web are written once they are read. -/
def IsSpelt (readName : Host.NameReader) (host : String) : Prop :=
  ∃ name, Host.readDomain readName host.toList = .ok name ∧ name.text = host

def Names (readUrl : String → Except UrlError Url) (raw host : String) (port : Nat) : Prop :=
  ∃ u, readUrl raw = .ok u ∧ u.host.map Host.text = some host ∧ u.effectivePort = some port

variable {readName : Host.NameReader}

theorem IsSpelt.of_readDomain (hname : Host.IsNameReader readName) {cs : List Char} {name : Host}
    (h : Host.readDomain readName cs = .ok name) : IsSpelt readName name.text :=
  ⟨name, Host.readDomain_text hname h, rfl⟩

theorem IsSpelt.of_readWith (hname : Host.IsNameReader readName) {raw : String} {u : Url}
    (hread : readWith readName raw = .ok u) {name : Host} (hhost : u.host = some name)
    (hscheme : isWeb u.scheme = true ∨ u.scheme = "file") : IsSpelt readName name.text := by
  obtain ⟨p, hp⟩ := exists_writes hname hread hhost
  by_cases hfile : p.schemeName = "file"
  · have hcut := hp.scheme?_eq
    rw [hfile] at hcut
    obtain ⟨-, -, a, b, rest, -, -, -, hdomain⟩ := readWith_of_file hcut hread hhost
    exact .of_readDomain hname hdomain
  · obtain ⟨name', port, hdomain, -, rfl⟩ := (readWith_eq_ok_iff hp hfile).1 hread
    cases hhost
    rw [readHost, if_pos (hscheme.resolve_right hfile)] at hdomain
    exact .of_readDomain hname hdomain

theorem stripped_eq_filter {cs : List Char} (hfirst : ∀ c ∈ cs.head?, 0x20 < c.toNat)
    (hlast : ∀ c ∈ cs.getLast?, 0x20 < c.toNat) :
    stripped cs = cs.filter fun c => !"\t\n\r".toList.contains c := by
  have hfront : cs.dropWhile (fun c => decide (c.toNat ≤ 0x20)) = cs :=
    Text.dropWhile_append_stop (List.forall_mem_nil _) fun c hc =>
      decide_eq_false (Nat.not_le.2 (hfirst c hc))
  have hback : cs.reverse.dropWhile (fun c => decide (c.toNat ≤ 0x20)) = cs.reverse :=
    Text.dropWhile_append_stop (List.forall_mem_nil _) fun c hc =>
      decide_eq_false (Nat.not_le.2 (hlast c (List.head?_reverse ▸ hc)))
  rw [stripped, hfront, hback, List.reverse_reverse]

theorem effectivePort_keptPort {scheme : String} {digits : List Char} (hne : digits ≠ [])
    (host : Option Host) (path : String) :
    effectivePort ⟨scheme, host, keptPort scheme digits, path⟩ =
      some (Nat.ofDigitChars 10 digits 0) := by
  rw [effectivePort, keptPort, List.isEmpty_eq_false_iff.2 hne, Bool.false_or]
  by_cases hown : schemePort scheme = some (Nat.ofDigitChars 10 digits 0)
  · rw [decide_eq_true hown, if_pos rfl, hown]
    rfl
  · rw [decide_eq_false hown, if_neg Bool.false_ne_true]
    rfl

theorem schemePort_le {scheme : String} {port : Nat} (h : schemePort scheme = some port) :
    port ≤ 65535 := by
  unfold schemePort at h
  split at h <;> cases h <;> decide

theorem filter_breaks {cs : List Char} (h : ∀ c ∈ cs, c ∉ "\t\n\r".toList) :
    cs.filter (fun c => !"\t\n\r".toList.contains c) = cs := by
  rw [List.filter_eq_self]
  intro c hc
  rw [Bool.not_eq_true', Bool.eq_false_iff, ne_eq, List.contains_iff_mem]
  exact h c hc

theorem Host.IsWritten.notMem_breaks {cs : List Char} (h : IsWritten cs) {c : Char} (hc : c ∈ cs) :
    c ∉ "\t\n\r".toList := by
  intro hbreak
  have hall : ∀ d ∈ "\t\n\r".toList, d ∉ [':', '[', ']'] ∧ isDelimiter d = true :=
    Text.forall_mem_of_all (by decide)
  rcases h.mem hc with hmem | hdelimiter
  · exact (hall c hbreak).1 hmem
  · rw [(hall c hbreak).2] at hdelimiter
    cases hdelimiter

end Url

namespace Agent

open Url (Parts Names IsSpelt)

variable {readName : Url.Host.NameReader} {host : String} {port : Nat}

theorem toList_endpointUrl (host : String) (port : Nat) :
    (endpointUrl host port).toList =
      "http://".toList ++ (host.toList ++ ':' :: Nat.toDigits 10 port) := by
  show ("http://" ++ host ++ ":" ++ port.repr).toList = _
  rw [String.toList_append, String.toList_append, String.toList_append, Nat.toList_repr,
    List.append_assoc, List.append_assoc]
  rfl

theorem stripped_endpointUrl (host : String) (port : Nat) :
    Url.stripped (endpointUrl host port).toList =
      "http:".toList ++ ('/' :: '/' :: (host.toList.filter (fun c => !"\t\n\r".toList.contains c) ++
        ':' :: Nat.toDigits 10 port)) := by
  have hdigits : ∀ c ∈ ':' :: Nat.toDigits 10 port, 48 ≤ c.toNat := by
    rw [List.forall_mem_cons]
    exact ⟨by decide, fun c hc => (Text.isDigit_iff.1 (isDigit_of_mem_toDigits hc)).1⟩
  have hbreaks : ∀ d ∈ "\t\n\r".toList, d.toNat < 48 :=
    Text.forall_mem_of_all (by decide)
  rw [toList_endpointUrl, Url.stripped_eq_filter]
  · rw [List.filter_append, List.filter_append, Url.filter_breaks fun c hc hbreak =>
      absurd (hdigits c hc) (Nat.not_le.2 (hbreaks c hbreak))]
    rfl
  · intro c hc
    obtain rfl : 'h' = c := Option.some.inj hc
    decide
  · intro c hc
    rw [List.getLast?_append, List.getLast?_append, List.getLast?_cons, Option.some_or,
      Option.some_or] at hc
    have hmem : c ∈ ':' :: Nat.toDigits 10 port :=
      List.mem_of_getLast? (List.getLast?_cons.trans hc)
    exact Nat.lt_of_lt_of_le (by decide) (hdigits c hmem)

def endpointParts (host : String) (port : Nat) : Parts :=
  .ofHostPort ['/', '/'] host.toList (Nat.toDigits 10 port)

theorem endpointParts_writes (h : Url.Host.IsWritten host.toList) :
    (endpointParts host port).Writes (endpointUrl host port) where
  delimited := Parts.delimited_ofHostPort (Text.forall_mem_of_all rfl) h fun _ =>
    isDigit_of_mem_toDigits
  text := by
    rw [stripped_endpointUrl, Url.filter_breaks fun c => h.notMem_breaks, endpointParts,
      Parts.text_ofHostPort]
    rfl

theorem readWith_endpointUrl (hname : Url.Host.IsNameReader readName) (hport : port ≤ 65535)
    {name : Url.Host} (hread : Url.Host.readDomain readName host.toList = .ok name) :
    Names (Url.readWith readName) (endpointUrl host port) name.text port := by
  have hwrites : (endpointParts host port).Writes (endpointUrl host port) :=
    endpointParts_writes (Url.Host.isWritten_of_readDomain hname hread)
  have hvalue : Nat.ofDigitChars 10 (Nat.toDigits 10 port) 0 = port := Nat.ofDigitChars_ten_toDigits
  have hreadPort : (endpointParts host port).readPort =
      .ok (Url.keptPort "http" (Nat.toDigits 10 port)) := by
    show (if 65535 < Nat.ofDigitChars 10 (Nat.toDigits 10 port) 0 then _ else _) = _
    rw [hvalue, if_neg (Nat.not_lt.2 hport)]
    rfl
  have hfile : (endpointParts host port).schemeName ≠ "file" :=
    (by decide : String.ofList ("http".toList.map Char.toLower) ≠ "file")
  refine ⟨_, (Url.readWith_eq_ok_iff hwrites hfile).2 ⟨name, _, hread, hreadPort, rfl⟩, rfl, ?_⟩
  exact (Url.effectivePort_keptPort Nat.toDigits_ne_nil _ _).trans (congrArg some hvalue)

theorem scheme?_endpointUrl (host : String) (port : Nat) :
    ∃ rest, Url.scheme? (Url.stripped (endpointUrl host port).toList) = some ("http", rest) :=
  ⟨_, Url.scheme?_eq_some_iff.2 ⟨"http".toList, rfl, Text.forall_mem_of_all (by decide), rfl,
    stripped_endpointUrl host port⟩⟩

theorem isSpelt_of_names_endpointUrl (hname : Url.Host.IsNameReader readName)
    {named : String} {namedPort : Nat}
    (h : Names (Url.readWith readName) (endpointUrl host port) named namedPort) :
    IsSpelt readName named := by
  obtain ⟨u, hread, hnamed, -⟩ := h
  obtain ⟨name, hhost, rfl⟩ := Option.map_eq_some_iff.1 hnamed
  obtain ⟨p, hp⟩ := Url.exists_writes hname hread hhost
  have hscheme : u.scheme = "http" := by
    obtain ⟨rest, hcut⟩ := scheme?_endpointUrl host port
    rw [hp.scheme?_eq] at hcut
    exact (hp.port_eq hname hread hhost).1.trans (Prod.mk.inj (Option.some.inj hcut)).1
  exact .of_readWith hname hread hhost (.inl (hscheme ▸ rfl))

theorem endpointUrl_names_iff (hname : Url.Host.IsNameReader readName) (hport : port ≤ 65535) :
    Names (Url.readWith readName) (endpointUrl host port) host port ↔ IsSpelt readName host := by
  constructor
  · exact isSpelt_of_names_endpointUrl hname
  · rintro ⟨name, hread, htext⟩
    have hnames := readWith_endpointUrl hname hport hread
    rwa [htext] at hnames

section Section

variable {readUrl : String → Except UrlError Url} {st : Stack}

def IsNamed (readUrl : String → Except UrlError Url) (a : Agent) : Prop :=
  Names readUrl a.url a.host a.port

theorem isNamed_of_urlNamesBoth (hopen : ∀ path, ¬UrlSocket readUrl st path)
    (h : UrlNamesBoth readUrl st) : (resolveWith readUrl st).value.IsNamed readUrl := by
  obtain ⟨⟨host, hhost⟩, port, hport⟩ := h
  rw [IsNamed, host_resolveWith_of_urlHost hopen hhost, port_resolveWith_of_urlPort hopen hport]
  obtain ⟨hreads, hname, hne⟩ := hhost
  rw [(ofParts hopen).kept hreads.told ⟨⟨_, .intro hreads hname hne⟩, _, hport⟩]
  refine ⟨_, hreads.read, by rw [hname, Option.map_some], ?_⟩
  rcases hport with ⟨hreads', hgiven⟩ | ⟨hreads', hnone, -, hscheme⟩
  · obtain ⟨-, rfl⟩ := hreads.unique hreads'
    rw [Url.effectivePort, hgiven]
    rfl
  · obtain ⟨-, rfl⟩ := hreads.unique hreads'
    rw [Url.effectivePort, hnone, hscheme]
    rfl

theorem urlPort_le (h : UrlPort (Url.readWith readName) st port) : port ≤ 65535 := by
  rcases h with ⟨hreads, hgiven⟩ | ⟨-, -, -, hscheme⟩
  · exact Url.port_le_of_readWith hreads.read _ hgiven
  · exact Url.schemePort_le hscheme

theorem port_resolveWith_le (hopen : ∀ path, ¬UrlSocket (Url.readWith readName) st path) :
    (resolveWith (Url.readWith readName) st).value.port ≤ 65535 := by
  have hport := (ofParts hopen).port
  generalize (resolveWith (Url.readWith readName) st).value.port = port at hport
  cases hport with
  | first h => exact urlPort_le h
  | second _ h =>
      obtain ⟨raw, -, -, hle⟩ := h
      exact hle
  | neither => decide

/-- Where the URL of the agent is read as one of the agent's host and port. -/
structure NamesAgent (readName : Url.Host.NameReader) (st : Stack) : Prop where
  named : (resolveWith (Url.readWith readName) st).value.IsNamed (Url.readWith readName) ↔
    UrlNamesBoth (Url.readWith readName) st ∨
      IsSpelt readName (resolveWith (Url.readWith readName) st).value.host
  respelt (h : ¬UrlNamesBoth (Url.readWith readName) st) {name : Url.Host}
    (hread : Url.Host.readDomain readName
      (resolveWith (Url.readWith readName) st).value.host.toList = .ok name) :
    Names (Url.readWith readName) (resolveWith (Url.readWith readName) st).value.url name.text
      (resolveWith (Url.readWith readName) st).value.port
  ofUrl {raw : String} {u : Url} {name : Url.Host} (h : UrlReads (Url.readWith readName) st raw u)
    (hhost : u.host = some name) (hscheme : Url.isWeb u.scheme = true ∨ u.scheme = "file") :
    (resolveWith (Url.readWith readName) st).value.IsNamed (Url.readWith readName)
  ofDefault (hurl : ∀ host, ¬UrlHost (Url.readWith readName) st host)
    (hhost : ∀ value, ¬st.Tells .agentHost value)
    (hlocal : readName "localhost".toList = .ok (.name "localhost")) :
    (resolveWith (Url.readWith readName) st).value.IsNamed (Url.readWith readName)

theorem resolveWith_namesAgent (hname : Url.Host.IsNameReader readName) (sources : List Source)
    (hopen : ∀ path, ¬UrlSocket (Url.readWith readName) (.ofSources sources) path) :
    NamesAgent readName (.ofSources sources) := by
  have hport := port_resolveWith_le hopen
  have hnamed : (resolveWith (Url.readWith readName) (.ofSources sources)).value.IsNamed
      (Url.readWith readName) ↔ UrlNamesBoth (Url.readWith readName) (.ofSources sources) ∨
        IsSpelt readName (resolveWith (Url.readWith readName) (.ofSources sources)).value.host := by
    by_cases hboth : UrlNamesBoth (Url.readWith readName) (.ofSources sources)
    · exact iff_of_true (isNamed_of_urlNamesBoth hopen hboth) (.inl hboth)
    · rw [IsNamed, (ofParts hopen).rebuilt hboth, or_iff_right hboth]
      exact endpointUrl_names_iff hname hport
  constructor
  case named => exact hnamed
  case respelt =>
    intro hboth name hread
    rw [(ofParts hopen).rebuilt hboth]
    exact readWith_endpointUrl hname hport hread
  case ofUrl =>
    intro raw u name hreads hhost hscheme
    have hne := Url.text_ne_empty hname hreads.read hhost
    rw [hnamed, host_resolveWith_of_urlHost hopen (.intro hreads hhost hne)]
    exact .inr (.of_readWith hname hreads.read hhost hscheme)
  case ofDefault =>
    intro hurl hhost hlocal
    have hdefault := (ofParts hopen).host
    rw [hnamed]
    generalize (resolveWith (Url.readWith readName) (.ofSources sources)).value.host = host
      at hdefault
    cases hdefault with
    | first h => exact absurd h (hurl host)
    | second _ h => exact absurd h (hhost host)
    | neither =>
        refine .inr ⟨.name "localhost", ?_, rfl⟩
        rw [Url.Host.readDomain_eq_ok_iff]
        exact .inr ⟨rfl, hlocal⟩

end Section

def addressSources : List Source :=
  [.pairs .override [("trace.agent.url", "https://[0:0::1]/v0"), ("trace.agent.port", "7777")]]

def addressUrl : Url where
  scheme := "https"
  host := some (.v6 [0, 0, 0, 0, 0, 0, 0, 1])
  port := none
  path := "/v0"

theorem resolveWith_address :
    (∀ path, ¬UrlSocket Url.read (.ofSources addressSources) path) ∧
      (resolveWith Url.read (.ofSources addressSources)).value.url = "http://[::1]:7777" ∧
      (resolveWith Url.read (.ofSources addressSources)).value.IsNamed Url.read := by
  have hreads : UrlReads Url.read (.ofSources addressSources) "https://[0:0::1]/v0" addressUrl :=
    ⟨Stack.value_text?_eq_some_iff.1 (by decide +kernel), by decide +kernel⟩
  have hopen := hreads.not_urlSocket (by decide)
  exact ⟨hopen, by decide +kernel,
    (resolveWith_namesAgent Url.Host.isNameReader_readName addressSources hopen).ofUrl hreads rfl
      (.inl rfl)⟩

def capitalSources : List Source := [.pairs .override [("agent.host", "Agent.Internal")]]

/-- The setting of the host is taken as it is, and the URL that is built of it is read in lower
case. -/
theorem not_isNamed_capital : ∃ r,
    (Build.ofSources Url.Host.readName (FileTree.directory []).fileSystem capitalSources
      .empty).result = .ok r ∧
      r.config.agent.host = "Agent.Internal" ∧
      Url.read r.config.agent.url =
        .ok ⟨"http", some (.name "agent.internal"), some 8126, "/"⟩ ∧
      ¬r.config.agent.IsNamed Url.read := by
  have hoff : ¬(Stack.ofSources capitalSources).IsOn .ciVisibility := by
    rw [Stack.IsOn, Stack.ofSources_eq]
    decide +kernel
  obtain ⟨r, hr⟩ := Build.exists_result_of_not_isOn hoff Url.Host.readName
    (FileTree.directory []).fileSystem .empty
  have hagent : r.config.agent = (resolve Url.Host.readName (.ofSources capitalSources)).value := by
    rw [Build.config_eq_resolve hr]
    rfl
  have hhost : r.config.agent.host = "Agent.Internal" := by
    rw [hagent]
    decide +kernel
  have hread : Url.read r.config.agent.url =
      .ok ⟨"http", some (.name "agent.internal"), some 8126, "/"⟩ := by
    rw [hagent]
    decide +kernel
  refine ⟨r, hr, hhost, hread, ?_⟩
  rintro ⟨u, hu, hnamed, -⟩
  rw [hread] at hu
  cases hu
  rw [hhost] at hnamed
  exact absurd hnamed (by decide)

end Agent

end TracerSettings
