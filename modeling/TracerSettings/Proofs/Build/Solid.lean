import TracerSettings.FileSystem
import TracerSettings.Proofs.Agent.Endpoint
import TracerSettings.Proofs.Build.Failure
import TracerSettings.Proofs.Credentials.Generations
import TracerSettings.Proofs.Url.Path

namespace TracerSettings

/-- A text with something in it and no white space at its ends. -/
structure Text.Solid (s : String) : Prop where
  ne_empty : s ≠ ""
  trimmed : Text.Trimmed s

theorem Stack.Tells.solid {st : Stack} {s : Setting} {value : String} (h : st.Tells s value) :
    Text.Solid value := by
  obtain ⟨hit, hhit, rfl⟩ := h
  exact ⟨value_ne_empty_of_mem_hits (List.mem_of_head? hhit),
    Text.trim_eq_self_iff.1 (trim_value_of_find? hhit)⟩

theorem Stack.solid_of_mem_text? {st : Stack} {s : Setting} :
    ∀ value ∈ (st.text? s).value, Text.Solid value :=
  fun _ h => (value_text?_eq_some_iff.1 h).solid

namespace Credentials

variable {readName : Url.Host.NameReader} {files : FileSystem} {sources : List Source}

theorem Generation.HasKey.solid {g : Generation} {key : String} (h : g.HasKey files sources key) :
    Text.Solid key :=
  ⟨h.trimmed.1, Text.trim_eq_self_iff.1 h.trimmed.2⟩

theorem solid_of_mem_resolveApiKey :
    ∀ key ∈ (resolveApiKey files (.ofSources sources)).value, Text.Solid key := by
  intro key hkey
  obtain ⟨key?, consulted, htakes⟩ := exists_takes files sources apiKeyGenerations
  rw [resolveApiKey, htakes.firstKey_eq, Option.mem_def] at hkey
  subst hkey
  obtain ⟨g, -, hhas⟩ := htakes.hasKey
  exact hhas.solid

theorem solid_of_mem_resolveApplicationKey :
    ∀ key ∈ (resolveApplicationKey files (.ofSources sources)).value, Text.Solid key :=
  fun _ hkey => (Generation.resolve_eq_some_iff.1 hkey).solid

end Credentials

theorem CiVisibility.solid_of_mem_resolveUrl {readUrl : String → Except UrlError Url} {st : Stack} :
    ∀ url ∈ (resolveUrl readUrl st).value, Text.Solid url := by
  intro url hurl
  rw [resolveUrl, Noted.value_bind] at hurl
  cases hraw : (st.text? .ciVisibilityAgentlessUrl).value with
  | none =>
      rw [hraw] at hurl
      cases hurl
  | some raw =>
      rw [hraw] at hurl
      dsimp only at hurl
      split at hurl
      · cases hurl
        exact Stack.solid_of_mem_text? url hraw
      · cases hurl

namespace Agent

variable {readName : Url.Host.NameReader} {st : Stack} {raw : String} {u : Url}

/-- A path that is not rooted and is empty or has a space at an end. -/
structure HollowPath (path : String) : Prop where
  unrooted : path.toList.head? ≠ some '/'
  hollow : path = "" ∨ path.toList.head? = some ' ' ∨ path.toList.getLast? = some ' '

theorem solid_iff_of_read (h : Url.readWith readName raw = .ok u) :
    Text.Solid u.path ↔ ¬HollowPath u.path := by
  have hblanks : Url.BlanksOfPath u.path.toList := Url.blanksOfPath_readWith h
  constructor
  · rintro ⟨hne, hstart, hending⟩ ⟨-, hempty | hspace | hspace⟩
    · exact hne hempty
    · exact absurd (hstart _ hspace) (by decide)
    · exact absurd (hending _ hspace) (by decide)
  · intro hsolid
    have hplain (c : Char) (hmem : c ∈ u.path.toList)
        (hnot : u.path.toList.head? ≠ some '/' → c ≠ ' ') : Text.isBlank c = false := by
      rw [Bool.eq_false_iff]
      intro hblank
      by_cases hroot : u.path.toList.head? = some '/'
      · exact absurd hblank (by rw [hblanks.rooted hroot c hmem]; decide)
      · exact hnot hroot (hblanks.space c hmem hblank)
    refine ⟨fun hempty => hsolid ⟨by rw [hempty]; decide, .inl hempty⟩, ⟨?_, ?_⟩⟩
    · intro c hc
      refine hplain c (List.mem_of_mem_head? hc) fun hroot hspace => ?_
      exact hsolid ⟨hroot, .inr (.inl (hspace ▸ hc))⟩
    · intro c hc
      refine hplain c (List.mem_of_mem_getLast? hc) fun hroot hspace => ?_
      exact hsolid ⟨hroot, .inr (.inr (hspace ▸ hc))⟩

/-- The socket of a URL has no solid path, or nothing solid follows the mark of a URL in front of
the socket's own setting. -/
inductive HollowSocket (readName : Url.Host.NameReader) (st : Stack) : Prop
  | url {raw : String} {u : Url} (h : UrlReads (Url.readWith readName) st raw u)
      (hunix : u.scheme = "unix") (hpath : HollowPath u.path)
  | marked {rest : String} (hopen : ∀ path, ¬UrlSocket (Url.readWith readName) st path)
      (h : st.Tells .agentSocket ("unix://" ++ rest))
      (hrest : rest = "" ∨ ∃ c ∈ rest.toList.head?, Text.isBlank c = true)

theorem socketPath_append (rest : String) : socketPath ("unix://" ++ rest) = rest := by
  have hprefix : "unix://".toList.isPrefixOf ("unix://" ++ rest).toList = true := by
    rw [String.toList_append, List.isPrefixOf_iff_prefix]
    exact List.prefix_append _ _
  rw [socketPath, if_pos hprefix, String.toList_append]
  exact String.ofList_toList

theorem eq_append_or_socketPath_eq (raw : String) :
    (∃ rest, raw = "unix://" ++ rest) ∨ socketPath raw = raw := by
  by_cases hprefix : "unix://".toList.isPrefixOf raw.toList = true
  · obtain ⟨rest, hrest⟩ := List.isPrefixOf_iff_prefix.1 hprefix
    refine .inl ⟨String.ofList rest, String.toList_inj.1 ?_⟩
    rw [String.toList_append, String.toList_ofList (l := rest)]
    exact hrest.symm
  · exact .inr (if_neg hprefix)

theorem solid_iff_of_solid_append {front rest : String} (h : Text.Solid (front ++ rest)) :
    Text.Solid rest ↔ ¬(rest = "" ∨ ∃ c ∈ rest.toList.head?, Text.isBlank c = true) := by
  constructor
  · rintro ⟨hne, hstart, -⟩ (hempty | ⟨c, hc, hblank⟩)
    · exact hne hempty
    · exact absurd hblank (by rw [hstart c hc]; decide)
  · intro hsolid
    obtain ⟨hne, hhead⟩ := not_or.1 hsolid
    refine ⟨hne, ⟨fun c hc => ?_, fun c hc => h.trimmed.ending c ?_⟩⟩
    · exact Bool.eq_false_iff.2 fun hblank => hhead ⟨c, hc, hblank⟩
    · rw [String.toList_append, List.getLast?_append, Option.mem_def.1 hc, Option.some_or]
      rfl

theorem socket_solid_iff :
    (∀ socket ∈ (resolve readName st).value.socket, Text.Solid socket) ↔
      ¬HollowSocket readName st := by
  by_cases hurl : ∃ path, UrlSocket (Url.readWith readName) st path
  · obtain ⟨_, hsocket⟩ := hurl
    cases hsocket with
    | @intro raw u h hunix =>
        have heq : (resolve readName st).value.socket = some u.path := (ofSocketUrl h hunix).socket
        simp only [heq, Option.mem_some_iff, forall_eq']
        rw [solid_iff_of_read h.read, not_iff_not]
        refine ⟨.url h hunix, fun hhollow => ?_⟩
        cases hhollow with
        | url h' hunix' hpath =>
            obtain ⟨-, rfl⟩ := h.unique h'
            exact hpath
        | marked hopen => exact absurd (.intro h hunix) (hopen u.path)
  · have hopen (path : String) : ¬UrlSocket (Url.readWith readName) st path := fun h =>
      hurl ⟨path, h⟩
    have heq (path : String) : (resolve readName st).value.socket = some path ↔
        ∃ raw, st.Tells .agentSocket raw ∧ socketPath raw = path := (ofParts hopen).socket path
    simp only [Option.mem_def, heq]
    constructor
    · intro hsolid hhollow
      cases hhollow with
      | url h hunix => exact hopen _ (.intro h hunix)
      | marked _ h hrest =>
          exact (solid_iff_of_solid_append h.solid).1
            (hsolid _ ⟨_, h, socketPath_append _⟩) hrest
    · rintro hhollow _ ⟨raw, h, rfl⟩
      rcases eq_append_or_socketPath_eq raw with ⟨rest, rfl⟩ | hsame
      · rw [socketPath_append, solid_iff_of_solid_append h.solid]
        exact fun hrest => hhollow (.marked hopen h hrest)
      · rw [hsame]
        exact h.solid

end Agent

namespace Config

/-- The optional texts that are taken as they are found are solid. -/
structure Solid (c : Config) : Prop where
  env : ∀ env ∈ c.service.env, Text.Solid env
  version : ∀ version ∈ c.service.version, Text.Solid version
  pipe : ∀ pipe ∈ c.agent.pipe, Text.Solid pipe
  apiKey : ∀ key ∈ c.credentials.apiKey, Text.Solid key
  applicationKey : ∀ key ∈ c.credentials.applicationKey, Text.Solid key
  profilingUrl : ∀ url ∈ c.profiling.url, Text.Solid url
  agentlessUrl : ∀ url ∈ c.ciVisibility.agentlessUrl, Text.Solid url
  submissionUrl : ∀ url ∈ c.logSubmission.url, Text.Solid url

theorem solid_resolve (readName : Url.Host.NameReader) (files : FileSystem)
    (sources : List Source) :
    Solid (resolve readName files (.ofSources sources)).value where
  env := Stack.solid_of_mem_text?
  version := Stack.solid_of_mem_text?
  pipe := Stack.solid_of_mem_text?
  apiKey := Credentials.solid_of_mem_resolveApiKey
  applicationKey := Credentials.solid_of_mem_resolveApplicationKey
  profilingUrl := Stack.solid_of_mem_text?
  agentlessUrl := CiVisibility.solid_of_mem_resolveUrl
  submissionUrl := Stack.solid_of_mem_text?

end Config

namespace Build

/-- A build that succeeds has solid optional texts; the socket is one unless it comes out hollow. -/
theorem ofSources_solid {readName : Url.Host.NameReader} {files : FileSystem}
    {sources : List Source} {before : Journal} {r : Resolved}
    (h : (ofSources readName files sources before).result = .ok r) :
    r.config.Solid ∧ ((∀ socket ∈ r.config.agent.socket, Text.Solid socket) ↔
      ¬Agent.HollowSocket readName (.ofSources sources)) := by
  rw [config_eq_resolve h]
  exact ⟨Config.solid_resolve readName files sources, Agent.socket_solid_iff⟩

def paddedTexts : List Source :=
  [.environment Source.usualStart
      [("DD_TRACE_AGENT_UNIX_DOMAIN_SOCKET", " unix:///run/agent.sock "), ("DD_ENV", " ")],
    .pairs .process [("env", "\tstaging\n"), ("trace.pipe.name", " ")]]

theorem ofSources_paddedTexts : ∃ r,
    (ofSources Url.Host.readName (FileTree.directory []).fileSystem paddedTexts
      .empty).result = .ok r ∧
      r.config.Solid ∧ r.config.service.env = some "staging" ∧ r.config.agent.pipe = none ∧
        r.config.agent.socket = some "/run/agent.sock" ∧
          ∀ socket ∈ r.config.agent.socket, Text.Solid socket := by
  have hunset : (Stack.ofSources paddedTexts).find? Setting.ciVisibility.names = none := by
    rw [Stack.ofSources_eq]
    decide +kernel
  have hurl : (Stack.ofSources paddedTexts).find? Setting.agentUrl.names = none := by
    rw [Stack.ofSources_eq]
    decide +kernel
  have hsocket : (Stack.ofSources paddedTexts).find? Setting.agentSocket.names =
      some ⟨"unix:///run/agent.sock", .environment, "trace.agent.unix.domain.socket"⟩ := by
    rw [Stack.ofSources_eq]
    decide +kernel
  obtain ⟨r, h⟩ := exists_result_of_find?_eq_none hunset Url.Host.readName
    (FileTree.directory []).fileSystem .empty
  obtain ⟨hsolid, hiff⟩ := ofSources_solid h
  have hvalues : r.config.service.env = some "staging" ∧ r.config.agent.pipe = none ∧
      r.config.agent.socket = some "/run/agent.sock" := by
    rw [config_eq_resolve h]
    show ((Stack.ofSources paddedTexts).text? .env).value = _ ∧
      ((Stack.ofSources paddedTexts).text? .agentPipe).value = _ ∧
        (Agent.resolve Url.Host.readName (.ofSources paddedTexts)).value.socket = _
    rw [Stack.ofSources_eq]
    decide +kernel
  refine ⟨r, h, hsolid, hvalues.1, hvalues.2.1, hvalues.2.2, hiff.2 fun hhollow => ?_⟩
  cases hhollow with
  | url hreads => exact nomatch hurl.symm.trans hreads.told.choose_spec.1
  | @marked rest _ htold hrest =>
      have hraw := htold.unique ⟨_, hsocket, rfl⟩
      obtain rfl : rest = "/run/agent.sock" := by
        rw [← Agent.socketPath_append rest, hraw]
        decide +kernel
      exact absurd hrest (by simp; decide)

def bareMark : List Source := [.pairs .override [("trace.agent.unix.domain.socket", "unix://")]]

theorem not_solid_bareMark : ∃ r,
    (ofSources Url.Host.readName (FileTree.directory []).fileSystem bareMark
      .empty).result = .ok r ∧
      r.config.agent.socket = some "" ∧
        ¬∀ socket ∈ r.config.agent.socket, Text.Solid socket := by
  have hunset : (Stack.ofSources bareMark).find? Setting.ciVisibility.names = none := by
    rw [Stack.ofSources_eq]
    decide +kernel
  obtain ⟨r, h⟩ := exists_result_of_find?_eq_none hunset Url.Host.readName
    (FileTree.directory []).fileSystem .empty
  have hsocket : r.config.agent.socket = some "" := by
    rw [config_eq_resolve h]
    show (Agent.resolve Url.Host.readName (.ofSources bareMark)).value.socket = _
    rw [Stack.ofSources_eq]
    decide +kernel
  exact ⟨r, h, hsocket, fun hsolid => (hsolid "" hsocket).ne_empty rfl⟩

end Build

end TracerSettings
