import TracerSettings.Proofs.Config.Reads
import TracerSettings.Proofs.Reports

namespace TracerSettings

open Stack

variable {readName : Url.Host.NameReader} (st : Stack)

namespace Service

theorem resolveName_reportsOn (settings : List Setting) :
    (resolveName st).ReportsOn settings := by
  simp only [resolveName, Noted.reportsOn_bind, resolveExcluding_reportsOn, true_and]
  split <;> simp

theorem resolve_reportsOn : (resolve st).ReportsOn reads := by
  simp [resolve, resolveName_reportsOn, resolveTags, reads]

end Service

namespace Agent

variable {settings : List Setting}

theorem writtenEndpoint_reportsOn (hurl : Setting.agentUrl ∈ settings)
    (readUrl : String → Except UrlError Url) (raw : Option String) :
    (writtenEndpoint readUrl raw).ReportsOn settings := by
  unfold writtenEndpoint
  split
  · simp
  · split
    · simp
    · simp [invalidValue_concerns hurl]

theorem configuredPort_reportsOn (hport : Setting.agentPort ∈ settings) :
    (configuredPort st).ReportsOn settings := by
  simp only [configuredPort, Noted.reportsOn_bind, resolve_reportsOn, true_and]
  split
  · simp
  · split
    · simp
    · simp [invalidValue_concerns hport]

theorem complete_reportsOn (hport : Setting.agentPort ∈ settings) (e : Endpoint) :
    (complete st e).ReportsOn settings := by
  simp [complete, configuredPort_reportsOn st hport]

theorem resolve_reportsOn : (resolve readName st).ReportsOn reads := by
  have hurl : Setting.agentUrl ∈ reads := by simp [reads]
  have hport : Setting.agentPort ∈ reads := by simp [reads]
  have htimeout : Setting.agentTimeout ∈ reads := by simp [reads]
  simp [resolve, resolveWith, writtenEndpoint_reportsOn hurl, complete_reportsOn st hport,
    resolveTimeout, htimeout]

end Agent

namespace SplitSetting

variable {Old New : Type} (setting : SplitSetting Old New)

theorem common_mem_reads : Setting.named setting.common ∈ setting.reads := by
  simp [reads, keys]

theorem current_mem_reads (d : Direction) :
    Setting.named (setting.current.key d) ∈ setting.reads := by
  cases d <;> simp [reads, keys, DirectionKeys.key]

theorem deprecated_mem_reads (d : Direction) :
    Setting.named (setting.deprecated.key d) ∈ setting.reads := by
  cases d <;> simp [reads, keys, DirectionKeys.key]

variable [DecidableEq Old] [DecidableEq New] [Choice Old] [Choice New]

omit [DecidableEq Old] in
theorem settle_reportsOn (d : Direction) (s : Said Old New) :
    (setting.settle d s.common s.split s.old).ReportsOn setting.reads := by
  intro x hx
  rw [notes_settle, reports_map_report] at hx
  rcases mem_owed hx with ⟨_, rfl⟩ | ⟨_, _, rfl⟩ | ⟨_, _, _, rfl⟩
  · exact Diagnostic.concerns_of_key (common_mem_reads setting) rfl rfl
  · exact Diagnostic.concerns_of_key (deprecated_mem_reads setting d) rfl rfl
  · exact Diagnostic.concerns_of_key (deprecated_mem_reads setting d) rfl rfl

theorem reconcileDirection_reportsOn (d : Direction) (common : List New) :
    (setting.reconcileDirection st d common).ReportsOn setting.reads := by
  simp only [reconcileDirection, Noted.reportsOn_bind,
    choiceSet_reportsOn st (deprecated_mem_reads setting d),
    choiceSet_reportsOn st (current_mem_reads setting d), true_and]
  exact settle_reportsOn setting d ⟨common, _, _⟩

theorem reconcile_reportsOn : (setting.reconcile st).ReportsOn setting.reads := by
  simp only [reconcile, Noted.reportsOn_bind, choiceSet_reportsOn st (common_mem_reads setting),
    reconcileDirection_reportsOn, Noted.reportsOn_pure, and_true]

end SplitSetting

namespace Propagation

theorem resolve_reportsOn : (resolve st).ReportsOn reads := by
  have hstyles : (styles.reconcile st).ReportsOn reads :=
    (styles.reconcile_reportsOn st).mono (List.subset_append_right _ _)
  have hpadding : Setting.b3Padding ∈ reads := by simp [reads]
  have hfirst : Setting.extractFirst ∈ reads := by simp [reads]
  simp [resolve, hstyles, hpadding, hfirst]

end Propagation

namespace IdGeneration

theorem resolveName_reportsOn : (resolveName st).ReportsOn reads := by
  have hsecure : Setting.secureRandom ∈ reads := by simp [reads]
  simp [resolveName, hsecure]

theorem resolve_reportsOn : (resolve st).ReportsOn reads := by
  have hid : Setting.idGeneration ∈ reads := by simp [reads]
  have hsupported (strategy : IdGeneration) :
      (Diagnostic.unsupportedStrategy Setting.idGeneration.key strategy.name).Concerns reads :=
    Diagnostic.concerns_of_key hid rfl rfl
  have hunknown (raw : String) :
      (Diagnostic.unrecognizedValue Setting.idGeneration.key raw).Concerns reads :=
    Diagnostic.concerns_of_key hid rfl rfl
  simp only [resolve, Noted.reportsOn_bind, resolveName_reportsOn, true_and]
  split
  · simp [hsupported]
  · split
    · simp [hsupported]
    · simp [hsupported, hunknown]

end IdGeneration

namespace LongRunning

theorem resolve_reportsOn : (resolve st).ReportsOn reads := by
  simp [resolve, reads]

end LongRunning

namespace HeaderTags

theorem resolveLegacy_reportsOn : (resolveLegacy st).ReportsOn reads := by
  have hboth : Setting.headerTags ∈ reads := by simp [reads]
  simp only [resolveLegacy, Noted.reportsOn_bind, Noted.reportsOn_reportAll,
    Noted.reportsOn_pure, mergedMap_reportsOn st hboth, and_true]
  intro d hd
  obtain ⟨s, hs, rfl⟩ := List.mem_map.1 hd
  have hreads : [Setting.requestHeaderTags, Setting.responseHeaderTags] ⊆ reads := by
    simp [reads]
  exact Diagnostic.concerns_of_key (hreads (List.mem_of_mem_filter hs)) rfl rfl

theorem resolve_reportsOn : (resolve st).ReportsOn reads := by
  have hlegacy : Setting.headerTagsLegacyParsing ∈ reads := by simp [reads]
  have hrequest : [Setting.headerTags, Setting.requestHeaderTags] ⊆ reads := by simp [reads]
  have hresponse : [Setting.headerTags, Setting.responseHeaderTags] ⊆ reads := by simp [reads]
  simp [resolve, hlegacy, resolveLegacy_reportsOn, mergedTags_reportsOn st _ hrequest,
    mergedTags_reportsOn st _ hresponse]

end HeaderTags

namespace Trace

theorem resolve_reportsOn : (resolve st).ReportsOn reads := by
  have hheaders : (HeaderTags.resolve st).ReportsOn reads :=
    (HeaderTags.resolve_reportsOn st).mono fun s hs => by simp [reads, hs]
  have hids : (IdGeneration.resolve st).ReportsOn reads :=
    (IdGeneration.resolve_reportsOn st).mono fun s hs => by simp [reads, hs]
  have hlong : (LongRunning.resolve st).ReportsOn reads :=
    (LongRunning.resolve_reportsOn st).mono fun s hs => by simp [reads, hs]
  have hbaggage : (st.mergedTags baggageTags [.baggageMapping]).ReportsOn reads :=
    mergedTags_reportsOn st baggageTags (by simp [reads])
  have hown : ∀ s ∈ [Setting.partialFlush, .partialFlushMinSpans, .keepLatency, .flushInterval,
      .traceEnabled, .wideTraceIds, .serverErrorStatuses, .clientErrorStatuses], s ∈ reads := by
    simp [reads]
  simp only [List.forall_mem_cons] at hown
  simp [resolve, hheaders, hids, hlong, hbaggage, hown]

end Trace

namespace Profiling

theorem managed_reportsOn {α : Type} [DecidableEq α] {settings : List Setting} {s : Setting}
    (hs : s ∈ settings) (kind : Scalar α) (mode : Enablement) (default value : α) :
    (managed kind s mode default value).ReportsOn settings := by
  have hignored (value used reason : String) :
      (Diagnostic.ignoredOverride s.key value used reason).Concerns settings :=
    Diagnostic.concerns_of_key hs rfl rfl
  simp [managed, hignored]

theorem resolve_reportsOn : (resolve st).ReportsOn reads := by
  simp [resolve, managed_reportsOn, reads]

end Profiling

namespace Telemetry

theorem resolve_reportsOn : (resolve st).ReportsOn reads := by
  simp [resolve, resolvePeriod, reads]

end Telemetry

namespace RuntimeMetrics

theorem resolve_reportsOn : (resolve st).ReportsOn reads := by
  simp [resolve, reads]

end RuntimeMetrics

namespace CiVisibility

theorem resolveUrl_reportsOn (readUrl : String → Except UrlError Url) :
    (resolveUrl readUrl st).ReportsOn reads := by
  have hurl : Setting.ciVisibilityAgentlessUrl ∈ reads := by simp [reads]
  simp only [resolveUrl, Noted.reportsOn_bind, text?_reportsOn, true_and]
  split
  · simp
  · split
    · simp
    · simp [invalidValue_concerns hurl]

theorem resolve_reportsOn : (resolve readName st).ReportsOn reads := by
  have hon : Setting.ciVisibility ∈ reads := by simp [reads]
  have hagentless : Setting.ciVisibilityAgentless ∈ reads := by simp [reads]
  simp [resolve, resolveWith, resolveUrl_reportsOn, hon, hagentless]

end CiVisibility

namespace LogSubmission

theorem resolve_reportsOn (ciVisibility : Bool) : (resolve st ciVisibility).ReportsOn reads := by
  simp [resolve, reads]

end LogSubmission

namespace Credentials

variable (files : FileSystem)

theorem fromFile_reportsOn {s : Setting} (hs : s ∈ reads) :
    (fromFile files st s).ReportsOn reads := by
  have hunreadable (path reason : String) :
      (Diagnostic.unreadableFile s.key path reason).Concerns reads :=
    Diagnostic.concerns_of_key hs rfl rfl
  simp only [fromFile, Noted.reportsOn_bind, text?_reportsOn, true_and]
  split
  · simp
  · split
    · simp
    · simp [hunreadable]

theorem Generation.resolve_reportsOn {g : Generation} (hfile : g.file ∈ reads) :
    (g.resolve files st).ReportsOn reads := by
  simp [Generation.resolve, Generation.direct, fromFile_reportsOn st files hfile]

theorem firstKey_reportsOn {generations : List Generation}
    (h : ∀ g ∈ generations, g.file ∈ reads) :
    (firstKey files st generations).ReportsOn reads := by
  induction generations with
  | nil => exact Noted.reportsOn_pure none
  | cons g rest ih =>
      obtain ⟨hg, hrest⟩ := List.forall_mem_cons.1 h
      simp only [firstKey, Noted.reportsOn_bind, Generation.resolve_reportsOn st files hg,
        true_and]
      split
      · simp
      · exact ih hrest

theorem resolve_reportsOn : (resolve files st).ReportsOn reads := by
  have hapi : (resolveApiKey files st).ReportsOn reads := by
    apply firstKey_reportsOn
    simp [apiKeyGenerations, reads, fileSettings]
  have happlication : (resolveApplicationKey files st).ReportsOn reads := by
    apply Generation.resolve_reportsOn
    simp [reads, fileSettings]
  simp [resolve, hapi, happlication]

end Credentials

namespace Config

/-- Every section reports on settings that it reads and on no others; only the check of the whole
misses a credential. -/
theorem resolve_reportsOn (files : FileSystem) : (resolve readName files st).ReportsOn reads := by
  suffices h : ∀ settings, reads ⊆ settings → (resolve readName files st).ReportsOn settings from
    h reads (List.Subset.refl _)
  intro settings h
  simp only [reads, openReads, List.append_subset] at h
  obtain ⟨⟨⟨⟨⟨⟨⟨⟨⟨hservice, hagent⟩, hpropagation⟩, htrace⟩, hprofiling⟩, htelemetry⟩, hmetrics⟩,
    hvisibility⟩, hlogs⟩, hcredentials⟩ := h
  simp only [resolve, Noted.reportsOn_bind, Noted.reportsOn_pure, and_true]
  exact ⟨(CiVisibility.resolve_reportsOn st).mono hvisibility,
    (Service.resolve_reportsOn st).mono hservice,
    (Agent.resolve_reportsOn st).mono hagent,
    (Credentials.resolve_reportsOn st files).mono hcredentials,
    (Propagation.resolve_reportsOn st).mono hpropagation,
    (Trace.resolve_reportsOn st).mono htrace,
    (Profiling.resolve_reportsOn st).mono hprofiling,
    (Telemetry.resolve_reportsOn st).mono htelemetry,
    (RuntimeMetrics.resolve_reportsOn st).mono hmetrics,
    (LogSubmission.resolve_reportsOn st _).mono hlogs⟩

end Config

end TracerSettings
