import TracerSettings.FileSystem
import TracerSettings.Proofs.Build.Shared
import TracerSettings.Proofs.Secrecy.Credentials
import TracerSettings.Proofs.Source.Agreement
import TracerSettings.Report

namespace TracerSettings

namespace Credentials

variable {c c' : Credentials}

theorem text_eq (h : c.Alike c') : c.text = c'.text := by
  unfold text
  rw [h.apiKey.masked_eq, h.applicationKey.masked_eq]

theorem shape_eq (h : c.Alike c') : c.shape = c'.shape := by
  unfold shape
  rw [h.apiKey.masked_eq, h.applicationKey.masked_eq]

end Credentials

namespace Config

/-- Configurations that differ in their credentials only, and in these not by their looks. -/
inductive Alike (c : Config) : Config → Prop
  | mk {credentials : Credentials} (h : c.credentials.Alike credentials) :
      Alike c { c with credentials }

inductive CheckedAlike : Except Contradiction Config → Except Contradiction Config → Prop
  | error (e : Contradiction) : CheckedAlike (.error e) (.error e)
  | ok {c c' : Config} (h : c.Alike c') : CheckedAlike (.ok c) (.ok c')

variable {readName : Url.Host.NameReader} {files files' : FileSystem} {st st' : Stack}

theorem resolve_alike (h : Credentials.Aside files files' st st')
    (hopen : Stack.AgreeOn openReads st st')
    (hraw : st.raw? Setting.initializationType = st'.raw? Setting.initializationType) :
    (resolve readName files st).Alike Alike (resolve readName files' st') := by
  simp only [openReads, Stack.agreeOn_append] at hopen
  obtain ⟨⟨⟨⟨⟨⟨⟨⟨hservice, hagent⟩, hpropagation⟩, htrace⟩, hprofiling⟩, htelemetry⟩, hmetrics⟩,
    hvisibility⟩, hlogs⟩ := hopen
  apply Noted.Alike.bind_eq (CiVisibility.resolve_congr hvisibility)
  intro visibility
  apply Noted.Alike.bind_eq (Service.resolve_congr hservice)
  intro service
  apply Noted.Alike.bind_eq (Agent.resolve_congr hagent)
  intro agent
  apply (Credentials.resolve_alike h).bind
  intro credentials credentials' hcredentials
  apply Noted.Alike.bind_eq (Propagation.resolve_congr hpropagation)
  intro propagation
  apply Noted.Alike.bind_eq (Trace.resolve_congr htrace (.of_eq hraw))
  intro trace
  apply Noted.Alike.bind_eq (Profiling.resolve_congr hprofiling)
  intro profiling
  apply Noted.Alike.bind_eq (Telemetry.resolve_congr htelemetry)
  intro telemetry
  apply Noted.Alike.bind_eq (RuntimeMetrics.resolve_congr hmetrics)
  intro metrics
  apply Noted.Alike.bind_eq (LogSubmission.resolve_congr hlogs visibility.enabled)
  intro logs
  exact .pure (.mk hcredentials)

theorem Alike.credentials {c c' : Config} (h : c.Alike c') :
    c.credentials.Alike c'.credentials := by
  obtain ⟨h⟩ := h
  exact h

theorem hasApiKey_eq {c c' : Config} (h : c.Alike c') : c.hasApiKey = c'.hasApiKey :=
  h.credentials.apiKey.any_eq

theorem check_alike {c c' : Config} (h : c.Alike c') : c.check.Alike CheckedAlike c'.check := by
  have hkey := hasApiKey_eq h
  obtain ⟨-⟩ := id h
  simp only [check, ← hkey]
  split
  · apply Noted.Alike.bind_eq rfl
    intro _
    split
    · exact .pure (.error _)
    · exact .pure (.ok h)
  · split
    · exact .pure (.error _)
    · exact .pure (.ok h)

theorem text_eq {c c' : Config} (h : c.Alike c') : c.text = c'.text := by
  obtain ⟨h⟩ := h
  unfold text
  rw [h.apiKey.masked_eq]

theorem sections_eq {c c' : Config} (h : c.Alike c') : c.sections = c'.sections := by
  obtain ⟨h⟩ := h
  unfold sections
  rw [Credentials.shape_eq h]

end Config

/-- Everything that a resolved configuration gives out as text. -/
structure Resolved.LooksAlike (r r' : Resolved) : Prop where
  text : r.config.text = r'.config.text
  shown (section? : Option String) (format : ReportFormat) :
    r.show? section? format = r'.show? section? format
  credentialsText : r.config.credentials.text = r'.config.credentials.text
  credentialsJson : r.config.credentials.shape.toJson = r'.config.credentials.shape.toJson
  collected : r.collected = r'.collected
  diagnostics : r.diagnostics = r'.diagnostics
  loadedFiles : r.loadedFiles = r'.loadedFiles

namespace Resolved

variable {r r' : Resolved}

theorem show?_congr (hsections : r.config.sections = r'.config.sections)
    (hcollected : r.collected = r'.collected) (hdiagnostics : r.diagnostics = r'.diagnostics)
    (hfiles : r.loadedFiles = r'.loadedFiles) (section? : Option String) (format : ReportFormat) :
    r.show? section? format = r'.show? section? format := by
  have hsection (name : String) : r.config.section? name = r'.config.section? name := by
    unfold Config.section?
    rw [hsections]
  cases format with
  | toml =>
      have hheader : r.header = r'.header := by
        unfold header
        rw [hcollected, hdiagnostics, hfiles]
      have hbody : r.tomlBody? section? = r'.tomlBody? section? := by
        cases section? with
        | none => simp only [tomlBody?, hsections]
        | some name => simp only [tomlBody?, hsection]
      simp only [show?, hheader, hbody]
  | json =>
      have hbody : r.jsonBody? section? = r'.jsonBody? section? := by
        cases section? with
        | none => simp only [jsonBody?, hsections, hcollected, hdiagnostics, hfiles]
        | some name => simp only [jsonBody?, hsection]
      simp only [show?, hbody]

theorem looksAlike (hconfig : r.config.Alike r'.config) (hcollected : r.collected = r'.collected)
    (hdiagnostics : r.diagnostics = r'.diagnostics) (hfiles : r.loadedFiles = r'.loadedFiles) :
    r.LooksAlike r' where
  text := Config.text_eq hconfig
  shown := show?_congr (Config.sections_eq hconfig) hcollected hdiagnostics hfiles
  credentialsText := Credentials.text_eq hconfig.credentials
  credentialsJson := by rw [Credentials.shape_eq hconfig.credentials]
  collected := hcollected
  diagnostics := hdiagnostics
  loadedFiles := hfiles

end Resolved

/-- Results that cannot be told apart: both are failures with one message, or both look alike. -/
inductive Build.ResultsAlike : Except Contradiction Resolved → Except Contradiction Resolved → Prop
  | failed {e e' : Contradiction} (h : e.message = e'.message) : ResultsAlike (.error e) (.error e')
  | built {r r' : Resolved} (h : r.LooksAlike r') : ResultsAlike (.ok r) (.ok r')

structure Build.LooksAlike (b b' : Build) : Prop where
  result : ResultsAlike b.result b'.result
  journal : b.journal = b'.journal
  events : b.events = b'.events

namespace Source

def secretKeys : List String := Credentials.secrets.map Setting.key

/-- Sources that agree, except that they may give other credentials where they give any. -/
structure SecretsAside (s s' : Source) : Prop where
  agree : AgreeBut secretKeys s s'
  presence : ∀ key ∈ secretKeys, (s.present key).isSome = (s'.present key).isSome

theorem SecretsAside.origin_eq (s s' : Source) (h : SecretsAside s s') : s.origin = s'.origin :=
  h.agree.origin_eq

theorem map_origin_hit? (s : Source) (key : String) :
    (s.hit? [key]).map Hit.origin = if (s.present key).isSome then some s.origin else none := by
  rw [hit?, firstPresent, List.findSome?_cons]
  cases s.present key <;> rfl

theorem initializationType_notMem (start : String) :
    Setting.initializationType ∉ secretKeys.map (variableName start) := by
  have hlast : ∀ key ∈ secretKeys, (key.toList.map variableCharacter).getLast? = some 'Y' := by
    decide +kernel
  intro hmem
  obtain ⟨key, hkey, heq⟩ := List.mem_map.1 hmem
  have hname : (variableName start key).toList.getLast? = some 'Y' :=
    getLast?_variableName (hlast key hkey)
  rw [heq] at hname
  exact absurd hname (by decide +kernel)

theorem apart_openReads :
    ∀ s ∈ Config.openReads, s.names.all (apart secretKeys) = true := by
  decide +kernel

theorem apart_fileSettings :
    ∀ s ∈ Credentials.fileSettings, s.names.all (apart secretKeys) = true := by
  decide +kernel

end Source

namespace Stack

variable {sources sources' : List Source}

theorem agreeOn_ofSources {settings : List Setting}
    (h : List.Forall₂ Source.SecretsAside sources sources')
    (hsettings : ∀ s ∈ settings, s.names.all (Source.apart Source.secretKeys) = true) :
    AgreeOn settings (ofSources sources) (ofSources sources') := by
  intro s hs
  apply hits_ofSources_congr h Source.SecretsAside.origin_eq
  exact fun _ _ haside => haside.agree.hit?_eq (hsettings s hs)

theorem sameOrigins_ofSources (h : List.Forall₂ Source.SecretsAside sources sources')
    {s : Setting} (hs : s ∈ Credentials.secrets) :
    Credentials.SameOrigins (ofSources sources) (ofSources sources') s := by
  have hnames : ∀ s ∈ Credentials.secrets, s.names = [s.key] := by decide
  rw [Credentials.SameOrigins, hits, hits, List.map_filterMap, List.map_filterMap, hnames s hs]
  apply filterMap_eq_of_forall₂ (forall₂_ofSources h Source.SecretsAside.origin_eq)
  intro source source' haside
  rw [Source.map_origin_hit?, Source.map_origin_hit?, haside.agree.origin_eq,
    haside.presence s.key (List.mem_map_of_mem hs)]

end Stack

namespace Build

variable {readName : Url.Host.NameReader} {files files' : FileSystem}
  {sources sources' : List Source}

theorem configOf_alike (hsources : List.Forall₂ Source.SecretsAside sources sources')
    (hfiles : ∀ s ∈ Credentials.fileSettings, ∀ hit,
      (Stack.ofSources sources).find? s.names = some hit → files.AlikeAt files' hit.value) :
    (configOf readName files sources).Alike Config.CheckedAlike
      (configOf readName files' sources') := by
  have hopen : Stack.AgreeOn Config.openReads (.ofSources sources) (.ofSources sources') :=
    Stack.agreeOn_ofSources hsources Source.apart_openReads
  have hraw : (Stack.ofSources sources).raw? Setting.initializationType =
      (Stack.ofSources sources').raw? Setting.initializationType := by
    apply Stack.raw?_ofSources_congr hsources Source.SecretsAside.origin_eq
    exact fun _ _ haside => haside.agree.lookupRaw_eq Source.initializationType_notMem
  have haside : Credentials.Aside files files' (.ofSources sources) (.ofSources sources') := by
    constructor
    case secrets => exact fun _ hs => Stack.sameOrigins_ofSources hsources hs
    case named => exact Stack.agreeOn_ofSources hsources Source.apart_fileSettings
    case contents => exact hfiles
  apply (Config.resolve_alike haside hopen hraw).bind
  exact fun _ _ hconfig => Config.check_alike hconfig

theorem resultsAlike {x y : Except Contradiction Config} (h : Config.CheckedAlike x y)
    (hloaded : sources.filterMap Source.location = sources'.filterMap Source.location)
    (j : Journal) :
    ResultsAlike (x.map (resolvedIn j sources)) (y.map (resolvedIn j sources')) := by
  cases h with
  | error e => exact .failed rfl
  | ok hconfig => exact .built (Resolved.looksAlike hconfig rfl rfl hloaded)

theorem resolution_eq
    (h : Config.CheckedAlike (config readName files sources) (config readName files' sources'))
    (hloaded : sources.filterMap Source.location = sources'.filterMap Source.location)
    (before : Journal) :
    (ofSources readName files sources before).resolution =
      (ofSources readName files' sources' before).resolution := by
  simp only [resolution, result_ofSources]
  generalize config readName files sources = x at h ⊢
  generalize config readName files' sources' = y at h ⊢
  cases h with
  | error e => rfl
  | ok hconfig =>
      obtain ⟨-⟩ := hconfig
      simp only [Except.map, resolvedIn, hloaded]

/-- Builds of sources that differ in credentials only, on files whose contents differ at most where
a setting says that a credential is in them, give out the same, whatever the journal that they
share. No other file is read. -/
theorem ofSources_looksAlike (hsources : List.Forall₂ Source.SecretsAside sources sources')
    (hfiles : ∀ s ∈ Credentials.fileSettings, ∀ hit,
      (Stack.ofSources sources).find? s.names = some hit → files.AlikeAt files' hit.value)
    (before : Journal) :
    (ofSources readName files sources before).LooksAlike
      (ofSources readName files' sources' before) := by
  have halike : (configOf readName files sources).Alike Config.CheckedAlike
      (configOf readName files' sources') := configOf_alike hsources hfiles
  have hjournal : before.absorb (configOf readName files sources).notes =
      before.absorb (configOf readName files' sources').notes := by
    rw [← Journal.absorb_map_shown, halike.notes, Journal.absorb_map_shown]
  have hlog : before.log (configOf readName files sources).notes =
      before.log (configOf readName files' sources').notes := by
    rw [← Journal.log_map_shown, halike.notes, Journal.log_map_shown]
  have hloaded : sources.filterMap Source.location = sources'.filterMap Source.location :=
    filterMap_eq_of_forall₂ hsources fun _ _ haside => haside.agree.location_eq
  constructor
  case result =>
    rw [result_ofSources, result_ofSources, hjournal]
    exact resultsAlike halike.value hloaded _
  case journal => rw [journal_ofSources, hjournal, journal_ofSources]
  case events =>
    rw [events_ofSources, events_ofSources, hlog, resolution_eq halike.value hloaded]

def keyed (environmentKey documentKey : String) : List Source :=
  [.environment Source.usualStart [("DD_API_KEY", environmentKey), ("DD_ENV", "test")],
    .document (some "/app.toml") [("application-key", documentKey), ("env", "base")],
    .pairs .override [("api-key-file", "/key"), ("civisibility.enabled", "1"),
      ("civisibility.agentless.enabled", "1")]]

def keyBytes (bytes : ByteArray) : FileSystem :=
  (FileTree.directory [("key", .file bytes)]).fileSystem

def keyFile (content : String) : FileSystem := keyBytes content.toUTF8

theorem secretsAside_keyed :
    List.Forall₂ Source.SecretsAside (keyed "first" "one") (keyed "second" "two") := by
  refine .cons ⟨.environment _ ?_, by decide +kernel⟩
    (.cons ⟨.document _ ?_, by decide +kernel⟩
      (.cons ⟨.pairs _ fun _ _ => rfl, fun _ _ => rfl⟩ .nil))
  · intro name hname
    have hne : name ≠ "DD_API_KEY" := by
      rintro rfl
      exact hname (by decide +kernel)
    simp [lastValue?, List.lookup_cons, beq_false_of_ne hne]
  · intro key hkey
    have hne : key ≠ "application-key" := by
      rintro rfl
      exact hkey (by decide +kernel)
    simp [lastValue?, List.lookup_cons, beq_false_of_ne hne]

theorem alikeAt_keyed : ∀ s ∈ Credentials.fileSettings, ∀ hit,
    (Stack.ofSources (keyed "first" "one")).find? s.names = some hit →
      (keyFile "third").AlikeAt (keyFile " fourth ") hit.value := by
  have hpath : ∀ s ∈ Credentials.fileSettings, ∀ hit,
      (Stack.ofSources (keyed "first" "one")).find? s.names = some hit → hit.value = "/key" := by
    rw [Stack.ofSources_eq]
    decide +kernel
  intro s hs hit hfind
  rw [hpath s hs hit hfind]
  exact .contents rfl rfl (by decide +kernel) (by decide +kernel)

theorem ofSources_keyed :
    List.Forall₂ Source.SecretsAside (keyed "first" "one") (keyed "second" "two") ∧
      (∀ s ∈ Credentials.fileSettings, ∀ hit,
        (Stack.ofSources (keyed "first" "one")).find? s.names = some hit →
          (keyFile "third").AlikeAt (keyFile " fourth ") hit.value) ∧
      (ofSources Url.Host.readName (keyFile "third") (keyed "first" "one") .empty).LooksAlike
        (ofSources Url.Host.readName (keyFile " fourth ") (keyed "second" "two") .empty) :=
  ⟨secretsAside_keyed, alikeAt_keyed,
    ofSources_looksAlike secretsAside_keyed alikeAt_keyed .empty⟩

def keyFiled : List Source := [.pairs .override [("api-key-file", "/key")]]

def undecodable : ByteArray := ⟨#[0xFF, 0xFE]⟩

theorem find?_keyFiled : ∀ s ∈ Credentials.fileSettings, ∀ hit,
    (Stack.ofSources keyFiled).find? s.names = some hit → hit.value = "/key" := by
  rw [Stack.ofSources_eq]
  decide +kernel

theorem diagnostics_keyFiled_empty :
    (ofSources Url.Host.readName (keyBytes .empty) keyFiled .empty).journal.diagnostics = [] := by
  rw [journal_ofSources, configOf, Stack.ofSources_eq]
  decide +kernel

theorem diagnostics_keyFiled_undecodable :
    (ofSources Url.Host.readName (keyBytes undecodable) keyFiled .empty).journal.diagnostics =
      [.unreadableFile "api-key-file" "/key" "stream did not contain valid UTF-8"] := by
  rw [journal_ofSources, configOf, Stack.ofSources_eq]
  decide +kernel

/-- Neither an empty file nor one that is no text holds a key, but only the second is reported. -/
theorem not_looksAlike_undecodable :
    List.Forall₂ Source.SecretsAside keyFiled keyFiled ∧
      (∀ s ∈ Credentials.fileSettings, ∀ hit,
        (Stack.ofSources keyFiled).find? s.names = some hit →
          (keyBytes .empty).FilledAlikeAt (keyBytes undecodable) hit.value) ∧
      ¬(ofSources Url.Host.readName (keyBytes .empty) keyFiled .empty).LooksAlike
        (ofSources Url.Host.readName (keyBytes undecodable) keyFiled .empty) := by
  refine ⟨.cons ⟨.pairs _ fun _ _ => rfl, fun _ _ => rfl⟩ .nil, fun s hs hit hfind => ?_,
    fun halike => ?_⟩
  · rw [find?_keyFiled s hs hit hfind]
    exact .contents rfl rfl (by decide +kernel)
  · have hdiagnostics := congrArg Journal.diagnostics halike.journal
    rw [diagnostics_keyFiled_empty, diagnostics_keyFiled_undecodable] at hdiagnostics
    cases hdiagnostics

end Build

end TracerSettings
