import TracerSettings.Proofs.Build.Shared
import TracerSettings.Proofs.Build.Variables

namespace TracerSettings

def Note.isBuiltIn : Note → Bool
  | .collect _ _ origin => origin == .default
  | .report _ => false

namespace Noted

variable {α β : Type} {x : Noted α} {f : α → Noted β} {a : α} {b : β}

/-- A computation that comes to a value and notes nothing but built-in values on its way. -/
structure SettlesOn (x : Noted α) (a : α) : Prop where
  value : x.value = a
  notes : x.notes.all Note.isBuiltIn = true

theorem SettlesOn.pure (a : α) : (pure a : Noted α).SettlesOn a := ⟨rfl, rfl⟩

theorem SettlesOn.bind (hx : x.SettlesOn a) (hf : (f a).SettlesOn b) : (x >>= f).SettlesOn b := by
  obtain ⟨rfl, hnotes⟩ := hx
  refine ⟨hf.value, ?_⟩
  rw [notes_bind, List.all_append, hnotes, hf.notes]
  rfl

theorem SettlesOn.reports (h : x.SettlesOn a) : reports x.notes = [] := by
  rw [TracerSettings.reports, List.filterMap_eq_nil_iff]
  intro note hnote
  have hbuiltIn := List.all_eq_true.1 h.notes note hnote
  cases note with
  | report d => cases hbuiltIn
  | collect => rfl

theorem SettlesOn.origin_of_mem (h : x.SettlesOn a) {entry : String × Collected}
    (hentry : entry ∈ collections x.notes) : entry.2.origin = .default :=
  beq_iff_eq.1 (List.all_eq_true.1 h.notes _ (mem_collections.1 hentry))

end Noted

def Stack.empty : Stack := ⟨[]⟩

theorem Stack.ofSources_nil : ofSources [] = .empty := congrArg mk (List.mergeSort_nil ..)

namespace Config

open Noted

theorem resolve_empty (readName : Url.Host.NameReader) (files : FileSystem) :
    (resolve readName files .empty).SettlesOn default := by
  -- No setting names a file, so no file is read and the sections can be evaluated.
  have hvisibility : (CiVisibility.resolve readName .empty).SettlesOn .default := ⟨rfl, rfl⟩
  have hservice : (Service.resolve .empty).SettlesOn .default := ⟨rfl, rfl⟩
  have hurl : (Stack.empty.text? .agentUrl).SettlesOn none := ⟨rfl, rfl⟩
  have hagent : (Agent.resolve readName .empty).SettlesOn .default :=
    hurl.bind ((SettlesOn.pure Endpoint.unknown).bind ⟨rfl, rfl⟩)
  have hcredentials : (Credentials.resolve files .empty).SettlesOn .default := ⟨rfl, rfl⟩
  have hpropagation : (Propagation.resolve .empty).SettlesOn .default := ⟨rfl, rfl⟩
  have htrace : (Trace.resolve .empty).SettlesOn .default := ⟨rfl, rfl⟩
  have hprofiling : (Profiling.resolve .empty).SettlesOn .default := ⟨rfl, rfl⟩
  have htelemetry : (Telemetry.resolve .empty).SettlesOn .default := ⟨rfl, rfl⟩
  have hmetrics : (RuntimeMetrics.resolve .empty).SettlesOn .default := ⟨rfl, rfl⟩
  have hlogs : (LogSubmission.resolve .empty false).SettlesOn .default := ⟨rfl, rfl⟩
  apply hvisibility.bind
  apply hservice.bind
  apply hagent.bind
  apply hcredentials.bind
  apply hpropagation.bind
  apply htrace.bind
  apply hprofiling.bind
  apply htelemetry.bind
  apply hmetrics.bind
  apply hlogs.bind
  exact .pure default

theorem check_default : (check default).SettlesOn (.ok default) := ⟨rfl, rfl⟩

end Config

namespace Stack

variable {sources : List Source}

theorem hits_of_silent {names : List String} (h : ∀ source ∈ sources, source.Silent names) :
    (ofSources sources).hits names = [] :=
  List.filterMap_eq_nil_iff.2 fun source hsource =>
    Source.hit?_eq_none_iff.2 (h source (mem_ofSources.1 hsource))

theorem agreeOn_empty_of_silent {settings : List Setting}
    (h : ∀ source ∈ sources, source.Silent (settings.flatMap Setting.names)) :
    AgreeOn settings (ofSources sources) .empty := by
  intro s hs
  refine (hits_of_silent fun source hsource name hname => ?_).trans rfl
  exact h source hsource name (List.mem_flatMap.2 ⟨s, hs, hname⟩)

end Stack

namespace Build

variable {sources : List Source}

theorem configOf_silent (hsilent : ∀ source ∈ sources, source.Silent Config.keys)
    (hstart : (Stack.ofSources sources).raw? Setting.initializationType ≠
      some IdGeneration.snapStart) (readName : Url.Host.NameReader) (files : FileSystem) :
    configOf readName files sources = configOf readName files [] := by
  have hagree := Stack.agreeOn_append.1 (Stack.agreeOn_empty_of_silent hsilent)
  obtain ⟨hsecrets, hfiles⟩ := Stack.agreeOn_append.1 hagree.2
  have hstartAlike : (Stack.ofSources sources).StartAlike .empty :=
    iff_of_false hstart (fun h => nomatch h)
  rw [configOf, configOf, Stack.ofSources_nil,
    Config.resolve_startAlike_congr hagree.1 hfiles hsecrets.heardAlike hstartAlike]

theorem configOf_nil (readName : Url.Host.NameReader) (files : FileSystem) :
    (configOf readName files []).SettlesOn (.ok .default) := by
  rw [configOf, Stack.ofSources_nil]
  exact (Config.resolve_empty readName files).bind Config.check_default

/-- A build that comes to the defaults, with nothing to report. -/
structure YieldsDefaults (b : Build) (readName : Url.Host.NameReader) (files : FileSystem)
    (sources : List Source) (before : Journal) : Prop where
  result : b.result = .ok (resolvedIn b.journal sources .default)
  diagnostics : b.journal.diagnostics = before.diagnostics
  events : b.events = b.resolution
  collected : ∀ entry ∈ b.journal.collected,
    entry ∈ before.collected ∨ entry.2.origin = .default
  untouched : b.journal = (ofSources readName files [] before).journal

/-- Sources that tell nothing of the settings that are read yield the defaults, whatever they tell
under other keys and however many of their values are blank, if memory images are not resumed. -/
theorem ofSources_yieldsDefaults (hsilent : ∀ source ∈ sources, source.Silent Config.keys)
    (hstart : (Stack.ofSources sources).raw? Setting.initializationType ≠
      some IdGeneration.snapStart) (readName : Url.Host.NameReader) (files : FileSystem)
      (before : Journal) :
    (ofSources readName files sources before).YieldsDefaults readName files sources before := by
  have hsame := configOf_silent hsilent hstart readName files
  have hsettles : (configOf readName files sources).SettlesOn (.ok .default) := by
    rw [hsame]
    exact configOf_nil readName files
  have hjournal := journal_ofSources readName files sources before
  have hlog : before.log (configOf readName files sources).notes = [] := by
    rw [Journal.log_eq_firsts, hsettles.reports]
    rfl
  constructor
  case result =>
    rw [result_ofSources, config, hsettles.value, hjournal]
    rfl
  case diagnostics => rw [hjournal, Journal.diagnostics_absorb, hlog, List.append_nil]
  case events => rw [events_ofSources, hlog, List.map_nil, List.nil_append]
  case collected =>
    intro entry hentry
    rw [hjournal, Journal.collected_absorb, Journal.entered_eq_map, List.mem_append] at hentry
    refine hentry.imp_right fun hnew => ?_
    obtain ⟨found, hfound, rfl⟩ := List.mem_map.1 hnew
    have horigin : found.2.origin = .default :=
      hsettles.origin_of_mem (mem_of_mem_firsts hfound)
    exact horigin
  case untouched => rw [hjournal, hsame, journal_ofSources]

def noisy : List Source :=
  [.document (some "/app.toml") [("colour", "red"), ("service", " \t"), ("trace.tags", "")],
    .environment Source.usualStart
      [("DD_SITE", "  "), (Setting.initializationType, "on-demand")],
    .pairs .process [("Service", "shop"), ("profiling.enabled", "\n"), ("api-key", " ")]]

theorem present_noisy : ∀ source ∈ noisy, ∀ key ∈ Config.keys, source.present key = none := by
  rw [noisy, List.forall_mem_cons, List.forall_mem_cons, List.forall_mem_singleton]
  refine ⟨by decide +kernel, fun key hkey => ?_, by decide +kernel⟩
  have hname := Source.variableName_ne_initializationType hkey Source.usualStart
  change (lastValue? [("DD_SITE", "  "), (Setting.initializationType, "on-demand")]
    (Source.variableName Source.usualStart key)).bind Text.nonBlank = none
  generalize Source.variableName Source.usualStart key = name at hname
  by_cases hsite : name = "DD_SITE"
  · subst hsite
    decide +kernel
  · simp [lastValue?, List.lookup_cons, beq_false_of_ne hname, beq_false_of_ne hsite]

theorem ofSources_yieldsDefaults_noisy :
    (∀ source ∈ noisy, source.Silent Config.keys) ∧
      (Stack.ofSources noisy).raw? Setting.initializationType ≠ some IdGeneration.snapStart ∧
      (ofSources Url.Host.readName (FileTree.directory []).fileSystem noisy .empty).YieldsDefaults
        Url.Host.readName (FileTree.directory []).fileSystem noisy .empty := by
  have hsilent : ∀ source ∈ noisy, source.Silent Config.keys := fun source hsource key hkey =>
    Source.present_eq_none_iff.1 (present_noisy source hsource key hkey)
  have hstart : (Stack.ofSources noisy).raw? Setting.initializationType ≠
      some IdGeneration.snapStart := by
    rw [Stack.ofSources_eq]
    decide +kernel
  exact ⟨hsilent, hstart, ofSources_yieldsDefaults hsilent hstart _ _ .empty⟩

end Build

end TracerSettings
