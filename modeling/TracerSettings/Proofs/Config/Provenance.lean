import TracerSettings.Proofs.Config.Reads
import TracerSettings.Proofs.Provenance

namespace TracerSettings

open Stack

variable {readName : Url.Host.NameReader} (st : Stack) {all : List Row} {seen : List String}

namespace Service

def rows : List Row :=
  [⟨.service, .firstHit (some default.name)⟩, ⟨.env, .firstHit none⟩, ⟨.version, .firstHit none⟩,
    ⟨.globalTags, .merged⟩, ⟨.traceTags, .merged⟩, ⟨.site, .firstHit (some default.site)⟩,
    ⟨.serviceMapping, .merged⟩, ⟨.splitByTags, .firstHit none⟩]

theorem resolveName_collects (h : rows ⊆ all)
    (hname : ∀ hit, (st.resolveExcluding [.captured] .service).value = some hit →
      st.find? Setting.service.names = some hit) :
    (resolveName st).Collects seen (st.AccountsIn all) := by
  have hservice : ⟨.service, .firstHit (some default.name)⟩ ∈ all := h List.mem_cons_self
  have hfirst : (st.resolveExcluding [.captured] .service).Collects seen (st.AccountsIn all) := by
    apply Noted.collects_of_forall
    intro key value origin hmem
    rw [notes_resolveExcluding, List.mem_map] at hmem
    obtain ⟨hit, hhit, hcollect⟩ := hmem
    cases hcollect
    exact st.accountsIn_of_found hservice (hname hit (Option.mem_toList.1 hhit))
  simp only [resolveName, Noted.collects_bind, hfirst, true_and]
  split <;> simp [hservice]

theorem resolve_collects (h : rows ⊆ all)
    (hname : ∀ hit, (st.resolveExcluding [.captured] .service).value = some hit →
      st.find? Setting.service.names = some hit) :
    (resolve st).Collects seen (st.AccountsIn all) := by
  have hresolveName : (resolveName st).Collects seen (st.AccountsIn all) :=
    resolveName_collects st h hname
  simp only [rows, List.cons_subset] at h
  simp [resolve, hresolveName, resolveTags, h]

end Service

namespace Agent

def rows : List Row :=
  [⟨.agentUrl, .firstHit none⟩, ⟨.agentHost, .firstHit none⟩, ⟨.agentPort, .firstHit none⟩,
    ⟨.agentSocket, .firstHit none⟩, ⟨.agentPipe, .firstHit none⟩,
    ⟨.agentTimeout, .firstHit (some (Scalar.int64.text default.timeoutSeconds))⟩]

theorem writtenEndpoint_collects {P : String → String → Origin → Prop}
    (readUrl : String → Except UrlError Url) (raw : Option String) :
    (writtenEndpoint readUrl raw).Collects seen P := by
  unfold writtenEndpoint
  split
  · simp
  · split <;> simp

theorem configuredPort_collects (hport : ⟨.agentPort, .firstHit none⟩ ∈ all) :
    (configuredPort st).Collects seen (st.AccountsIn all) := by
  simp only [configuredPort, Noted.collects_bind, st.resolve_collects hport, true_and]
  split
  · simp
  · split <;> simp

theorem resolve_collects (h : rows ⊆ all) :
    (resolve readName st).Collects seen (st.AccountsIn all) := by
  simp only [rows, List.cons_subset] at h
  have hcomplete (seen : List String) (e : Endpoint) :
      (complete st e).Collects seen (st.AccountsIn all) := by
    simp [complete, configuredPort_collects, h]
  simp [resolve, resolveWith, writtenEndpoint_collects, hcomplete, resolveTimeout, h]

end Agent

namespace SplitSetting

variable {Old New : Type} (setting : SplitSetting Old New)

def rows : List Row := setting.keys.map fun key => ⟨.named key, .firstHit none⟩

variable [DecidableEq Old] [DecidableEq New] [Choice Old] [Choice New]

theorem reconcile_collects (h : setting.rows ⊆ all) :
    (setting.reconcile st).Collects seen (st.AccountsIn all) := by
  simp only [rows, keys, List.map_cons, List.cons_subset] at h
  obtain ⟨hcommon, hextract, hinject, hextractOld, hinjectOld, -⟩ := h
  have hsettle (seen : List String) (d : Direction) (s : Said Old New) :
      (setting.settle d s.common s.split s.old).Collects seen (st.AccountsIn all) :=
    Noted.collects_of_reports (notes_settle s)
  have hdirection (seen : List String) (d : Direction) (common : List New) :
      (setting.reconcileDirection st d common).Collects seen (st.AccountsIn all) := by
    simp only [reconcileDirection, Noted.collects_bind]
    refine ⟨?_, ?_, hsettle _ d ⟨common, _, _⟩⟩
    · cases d with
      | extract => exact st.choiceSet_collects hextractOld _
      | inject => exact st.choiceSet_collects hinjectOld _
    · cases d with
      | extract => exact st.choiceSet_collects hextract _
      | inject => exact st.choiceSet_collects hinject _
  simp only [reconcile, Noted.collects_bind, st.choiceSet_collects hcommon, hdirection,
    Noted.collects_pure, and_self]

end SplitSetting

namespace Propagation

def rows : List Row :=
  [⟨.b3Padding, .firstHit (some (switchText true))⟩,
    ⟨.extractFirst, .firstHit (some (switchText false))⟩] ++ styles.rows

theorem resolve_collects (h : rows ⊆ all) : (resolve st).Collects seen (st.AccountsIn all) := by
  obtain ⟨hswitches, hstyles⟩ := List.append_subset.1 h
  simp only [List.cons_subset] at hswitches
  simp [resolve, styles.reconcile_collects st hstyles, hswitches]

end Propagation

namespace IdGeneration

def rows : List Row :=
  [⟨.secureRandom, .firstHit (some (switchText false))⟩, ⟨.idGeneration, .firstHit none⟩]

theorem resolve_collects (h : rows ⊆ all) : (resolve st).Collects seen (st.AccountsIn all) := by
  simp only [rows, List.cons_subset] at h
  have hname : (resolveName st).Collects seen (st.AccountsIn all) := by simp [resolveName, h]
  simp only [resolve, Noted.collects_bind, hname, true_and]
  split
  · simp
  · split <;> simp

end IdGeneration

namespace LongRunning

def rows : List Row :=
  [⟨.longRunning, .firstHit (some (switchText default.enabled))⟩,
    ⟨.longRunningInitialFlush, .firstHit (some (Scalar.int64.text default.initialFlush))⟩,
    ⟨.longRunningFlush, .firstHit (some (Scalar.int64.text default.flush))⟩]

theorem resolve_collects (h : rows ⊆ all) : (resolve st).Collects seen (st.AccountsIn all) := by
  simp only [rows, List.cons_subset] at h
  simp [resolve, h]

end LongRunning

namespace HeaderTags

def rows : List Row :=
  [⟨.headerTagsLegacyParsing, .firstHit (some (switchText false))⟩, ⟨.headerTags, .merged⟩,
    ⟨.requestHeaderTags, .merged⟩, ⟨.responseHeaderTags, .merged⟩]

theorem resolve_collects (h : rows ⊆ all) : (resolve st).Collects seen (st.AccountsIn all) := by
  simp only [rows, List.cons_subset] at h
  obtain ⟨hswitch, hboth, hrequest, hresponse, -⟩ := h
  have hlegacy (seen : List String) : (resolveLegacy st).Collects seen (st.AccountsIn all) := by
    simp [resolveLegacy, hboth]
  have htags (seen : List String) (mapping : TagMapping) {s : Setting} (hs : ⟨s, .merged⟩ ∈ all) :
      (st.mergedTags mapping [.headerTags, s]).Collects seen (st.AccountsIn all) := by
    apply st.mergedTags_collects
    rw [List.forall_mem_cons, List.forall_mem_singleton]
    exact ⟨hboth, hs⟩
  simp [resolve, hlegacy, htags, hswitch, hrequest, hresponse]

end HeaderTags

namespace Trace

def rows : List Row :=
  [⟨.partialFlush, .firstHit (some (switchText default.partialFlush))⟩,
    ⟨.partialFlushMinSpans, .firstHit (some (Scalar.int32.text default.partialFlushMinSpans))⟩,
    ⟨.keepLatency, .firstHit (some (Scalar.int32.text default.keepLatencyMillis))⟩,
    ⟨.flushInterval, .firstHit (some (Scalar.single.text default.flushSeconds))⟩,
    ⟨.traceEnabled, .firstHit (some (switchText default.enabled))⟩,
    ⟨.wideTraceIds, .firstHit (some (switchText default.wideIds))⟩,
    ⟨.baggageMapping, .merged⟩,
    ⟨.serverErrorStatuses, .firstHit (some default.serverErrors.render)⟩,
    ⟨.clientErrorStatuses, .firstHit (some default.clientErrors.render)⟩,
    ⟨.noProxy, .firstHit none⟩] ++ HeaderTags.rows ++ IdGeneration.rows ++ LongRunning.rows

theorem resolve_collects (h : rows ⊆ all) : (resolve st).Collects seen (st.AccountsIn all) := by
  simp only [rows, List.append_subset] at h
  obtain ⟨⟨⟨hown, hheaders⟩, hids⟩, hlong⟩ := h
  simp only [List.cons_subset] at hown
  have hbaggage (seen : List String) :
      (st.mergedTags baggageTags [.baggageMapping]).Collects seen (st.AccountsIn all) :=
    st.mergedTags_collects baggageTags (by simp [hown])
  simp [resolve, HeaderTags.resolve_collects st hheaders, IdGeneration.resolve_collects st hids,
    LongRunning.resolve_collects st hlong, hbaggage, hown]

end Trace

namespace Profiling

def rows : List Row :=
  [⟨.profiling, .firstHit (some (Choice.name default.enablement))⟩,
    ⟨.profilingStartDelay, .firstHit (some (Scalar.int32.text default.startDelaySeconds))⟩,
    ⟨.profilingStartForceFirst, .firstHit (some (switchText default.startForceFirst))⟩,
    ⟨.profilingAgentless, .firstHit (some (switchText default.agentless))⟩,
    ⟨.profilingTags, .merged⟩, ⟨.profilingUrl, .firstHit none⟩]

theorem resolve_collects (h : rows ⊆ all) : (resolve st).Collects seen (st.AccountsIn all) := by
  simp only [rows, List.cons_subset] at h
  have hmanaged {α : Type} [DecidableEq α] (seen : List String) (kind : Scalar α) (s : Setting)
      (mode : Enablement) (default value : α) :
      (managed kind s mode default value).Collects seen (st.AccountsIn all) := by
    simp [managed]
  simp [resolve, hmanaged, h]

end Profiling

namespace Telemetry

def rows : List Row :=
  [⟨.telemetry, .firstHit (some (switchText default.enabled))⟩,
    ⟨.telemetryHeartbeat, .firstHit (some (Scalar.single.text default.heartbeatSeconds))⟩,
    ⟨.telemetryMetrics, .firstHit (some (Scalar.single.text default.metricsSeconds))⟩,
    ⟨.telemetryExtendedHeartbeat,
      .firstHit (some (Scalar.int64.text default.extendedHeartbeatSeconds))⟩]

theorem resolve_collects (h : rows ⊆ all) : (resolve st).Collects seen (st.AccountsIn all) := by
  simp only [rows, List.cons_subset] at h
  simp [resolve, resolvePeriod, h]

end Telemetry

namespace RuntimeMetrics

def rows : List Row :=
  [⟨.runtimeMetrics, .firstHit (some (switchText default.enabled))⟩,
    ⟨.jmxFetch, .firstHit (some (switchText default.jmxFetch))⟩]

theorem resolve_collects (h : rows ⊆ all) : (resolve st).Collects seen (st.AccountsIn all) := by
  simp only [rows, List.cons_subset] at h
  simp [resolve, h]

end RuntimeMetrics

namespace CiVisibility

def rows : List Row :=
  [⟨.ciVisibility, .firstHit (some (switchText default.enabled))⟩,
    ⟨.ciVisibilityAgentless, .firstHit (some (switchText default.agentless))⟩,
    ⟨.ciVisibilityAgentlessUrl, .firstHit none⟩]

theorem resolve_collects (h : rows ⊆ all) :
    (resolve readName st).Collects seen (st.AccountsIn all) := by
  simp only [rows, List.cons_subset] at h
  obtain ⟨hon, hagentless, hurl, -⟩ := h
  have hresolveUrl (seen : List String) (readUrl : String → Except UrlError Url) :
      (resolveUrl readUrl st).Collects seen (st.AccountsIn all) := by
    simp only [resolveUrl, Noted.collects_bind, st.text?_collects hurl, true_and]
    split
    · simp
    · split <;> simp
  simp [resolve, resolveWith, hresolveUrl, hon, hagentless]

end CiVisibility

namespace LogSubmission

def rows : List Row :=
  [⟨.logSubmission, .firstHit (some (switchText default.enabled))⟩,
    ⟨.logSubmissionQueueSize, .firstHit (some (Scalar.int32.text default.queueSize))⟩,
    ⟨.logSubmissionLevel, .firstHit (some default.level)⟩,
    ⟨.logSubmissionUrl, .firstHit none⟩]

theorem resolve_collects (h : rows ⊆ all) (ciVisibility : Bool) :
    (resolve st ciVisibility).Collects seen (st.AccountsIn all) := by
  simp only [rows, List.cons_subset] at h
  simp [resolve, h]

end LogSubmission

/-- Some row of the setting accounts for a value, by the sources that are heard on the setting. -/
def Stack.Explains (st : Stack) (rows : List Row) (key value : String) (origin : Origin) : Prop :=
  ∃ row ∈ rows, row.setting.key = key ∧ (st.heard row.setting).Accounts row value origin

namespace Credentials

def rows : List Row := reads.map fun s => ⟨s, .firstHit none⟩

variable {st}

theorem collects_explains {α : Type} {x : Noted α} {s : Setting} (hs : s ∈ reads)
    (h : rows ⊆ all) (hx : x.Collects seen ((st.heard s).AccountsIn [⟨s, .firstHit none⟩])) :
    x.Collects seen (st.Explains all) := by
  refine hx.mono ?_
  rintro key value origin ⟨row, hrow, hkey, haccounts⟩
  obtain rfl := List.mem_singleton.1 hrow
  exact ⟨_, h (List.mem_map_of_mem hs), hkey, haccounts⟩

theorem Generation.resolve_collects (h : rows ⊆ all) (files : FileSystem) {g : Generation}
    (hg : g ∈ generations) : (g.resolve files st).Collects seen (st.Explains all) := by
  have hsettings : ∀ g ∈ generations, g.key ∈ secrets ∧ g.file ∈ fileSettings := by decide
  obtain ⟨hkey, hfile⟩ := hsettings g hg
  have hdirect (seen : List String) : (g.direct st).Collects seen (st.Explains all) := by
    apply collects_explains (List.mem_append_left _ hkey) h
    rw [Generation.direct_eq hg]
    exact text?_collects _ List.mem_cons_self
  have hheard : st.heard g.file = st := by
    apply heard_of_notMem
    exact Config.notMem_credentialKeys g.file (List.mem_append_right _ hfile) _ List.mem_cons_self
  have hcontent (seen : List String) :
      (fromFile files st g.file).Collects seen (st.Explains all) := by
    apply collects_explains (List.mem_append_right _ hfile) h
    rw [hheard]
    simp only [fromFile, Noted.collects_bind, text?_collects st List.mem_cons_self, true_and]
    split
    · simp
    · split <;> simp
  simp only [Generation.resolve, Noted.collects_bind, hdirect, hcontent, Noted.collects_pure,
    and_self]

theorem firstKey_collects (h : rows ⊆ all) (files : FileSystem) {gs : List Generation}
    (hgs : gs ⊆ generations) : (firstKey files st gs).Collects seen (st.Explains all) := by
  induction gs generalizing seen with
  | nil => exact Noted.collects_pure none
  | cons g rest ih =>
      obtain ⟨hg, hrest⟩ := List.cons_subset.1 hgs
      simp only [firstKey, Noted.collects_bind, Generation.resolve_collects h files hg, true_and]
      split
      · simp
      · exact ih hrest

theorem resolve_collects (h : rows ⊆ all) (files : FileSystem) :
    (resolve files st).Collects seen (st.Explains all) := by
  have hapi (seen : List String) : (resolveApiKey files st).Collects seen (st.Explains all) :=
    firstKey_collects h files (List.subset_cons_self _ _)
  have happlication (seen : List String) :
      (resolveApplicationKey files st).Collects seen (st.Explains all) :=
    Generation.resolve_collects h files List.mem_cons_self
  simp only [resolve, Noted.collects_bind, hapi, happlication, Noted.collects_pure, and_self]

end Credentials

namespace Config

/-- The settings that every source may supply, each with the way in which its section reads it. -/
def openRows : List Row :=
  Service.rows ++ Agent.rows ++ Propagation.rows ++ Trace.rows ++ Profiling.rows ++
    Telemetry.rows ++ RuntimeMetrics.rows ++ CiVisibility.rows ++ LogSubmission.rows

def rows : List Row := openRows ++ Credentials.rows

theorem setting_openRows : openRows.map Row.setting = openReads := rfl

theorem nodup_keys : (rows.map fun row => row.setting.key).Nodup := by decide +kernel

theorem isSecretKey_of_builtIn :
    ∀ row ∈ rows, row.way.builtIn?.isSome = true → isSecretKey row.setting.key = false := by
  simp only [isSecretKey, Text.toList_lower]
  decide +kernel

variable {st}

theorem explains_of_accountsIn (key value : String) (origin : Origin)
    (h : st.AccountsIn openRows key value origin) : st.Explains rows key value origin := by
  obtain ⟨row, hrow, hkey, haccounts⟩ := h
  have hread : row.setting ∈ openReads := setting_openRows ▸ List.mem_map_of_mem hrow
  have hheard : st.heard row.setting = st := by
    apply heard_of_notMem
    exact notMem_credentialKeys _ (List.mem_append_left _ hread) _ List.mem_cons_self
  exact ⟨row, List.mem_append_left _ hrow, hkey, hheard.symm ▸ haccounts⟩

theorem resolve_collects (files : FileSystem)
    (hname : ∀ hit, (st.resolveExcluding [.captured] .service).value = some hit →
      st.find? Setting.service.names = some hit) :
    (resolve readName files st).Collects seen (st.Explains rows) := by
  have hcredentials (seen : List String) :
      (Credentials.resolve files st).Collects seen (st.Explains rows) :=
    Credentials.resolve_collects (List.subset_append_right _ _) files
  -- The sections but the credentials collect by the open rows, on which all sources are heard.
  have hopen : openRows ⊆ openRows := List.Subset.refl openRows
  obtain ⟨hopen, hlogs⟩ := List.append_subset.1 hopen
  obtain ⟨hopen, hvisibility⟩ := List.append_subset.1 hopen
  obtain ⟨hopen, hmetrics⟩ := List.append_subset.1 hopen
  obtain ⟨hopen, htelemetry⟩ := List.append_subset.1 hopen
  obtain ⟨hopen, hprofiling⟩ := List.append_subset.1 hopen
  obtain ⟨hopen, htrace⟩ := List.append_subset.1 hopen
  obtain ⟨hopen, hpropagation⟩ := List.append_subset.1 hopen
  obtain ⟨hservice, hagent⟩ := List.append_subset.1 hopen
  simp only [resolve, Noted.collects_bind, Noted.collects_pure, and_true]
  exact ⟨(CiVisibility.resolve_collects st hvisibility).mono explains_of_accountsIn,
    (Service.resolve_collects st hservice hname).mono explains_of_accountsIn,
    (Agent.resolve_collects st hagent).mono explains_of_accountsIn,
    hcredentials _,
    (Propagation.resolve_collects st hpropagation).mono explains_of_accountsIn,
    (Trace.resolve_collects st htrace).mono explains_of_accountsIn,
    (Profiling.resolve_collects st hprofiling).mono explains_of_accountsIn,
    (Telemetry.resolve_collects st htelemetry).mono explains_of_accountsIn,
    (RuntimeMetrics.resolve_collects st hmetrics).mono explains_of_accountsIn,
    (LogSubmission.resolve_collects st hlogs _).mono explains_of_accountsIn⟩

@[simp] theorem check_collects {P : String → String → Origin → Prop} (c : Config) :
    c.check.Collects seen P := by
  simp [check]

end Config

end TracerSettings
