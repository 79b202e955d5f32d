import TracerSettings.Config
import TracerSettings.Proofs.Admission
import TracerSettings.Proofs.SplitSetting

namespace TracerSettings

def Stack.AgreeOn (settings : List Setting) (st st' : Stack) : Prop :=
  ∀ s ∈ settings, st.hits s.names = st'.hits s.names

def Stack.HeardAlike (settings : List Setting) (st st' : Stack) : Prop :=
  ∀ s ∈ settings, (st.heard s).hits s.names = (st'.heard s).hits s.names

/-- Stacks that know alike whether a memory image is resumed many times. -/
def Stack.StartAlike (st st' : Stack) : Prop :=
  st.raw? Setting.initializationType = some IdGeneration.snapStart ↔
    st'.raw? Setting.initializationType = some IdGeneration.snapStart

namespace Stack

variable {s : Setting} {settings settings' : List Setting} {st st' : Stack}

theorem StartAlike.of_eq
    (h : st.raw? Setting.initializationType = st'.raw? Setting.initializationType) :
    st.StartAlike st' := by
  rw [StartAlike, h]

theorem agreeOn_cons :
    AgreeOn (s :: settings) st st' ↔
      st.hits s.names = st'.hits s.names ∧ AgreeOn settings st st' :=
  List.forall_mem_cons

theorem agreeOn_append :
    AgreeOn (settings ++ settings') st st' ↔
      AgreeOn settings st st' ∧ AgreeOn settings' st st' :=
  List.forall_mem_append

theorem AgreeOn.heardAlike (h : AgreeOn settings st st') : HeardAlike settings st st' :=
  fun s hs => admitting_congr (h s hs) _

end Stack

open Stack

variable {readName : Url.Host.NameReader} {st st' : Stack}

namespace Service

def reads : List Setting :=
  [.service, .env, .version, .globalTags, .traceTags, .site, .serviceMapping, .splitByTags]

theorem resolve_congr (h : AgreeOn reads st st') : resolve st = resolve st' := by
  simp only [reads, agreeOn_cons] at h
  obtain ⟨hservice, henv, hversion, hglobal, htrace, hsite, hmapping, hsplit, -⟩ := h
  have hname : resolveName st = resolveName st' := by
    simp only [resolveName, resolveExcluding_congr hservice, textOr_congr hservice]
  have htags (env version : Option String) :
      resolveTags st env version = resolveTags st' env version := by
    simp only [resolveTags, mergedMap_congr hglobal, mergedMap_congr htrace]
  simp only [resolve, hname, htags, text?_congr henv, text?_congr hversion, textOr_congr hsite,
    mergedMap_congr hmapping, list_congr hsplit]

end Service

namespace Agent

def reads : List Setting :=
  [.agentUrl, .agentHost, .agentPort, .agentSocket, .agentPipe, .agentTimeout]

theorem resolve_congr (h : AgreeOn reads st st') : resolve readName st = resolve readName st' := by
  simp only [reads, agreeOn_cons] at h
  obtain ⟨hurl, hhost, hport, hsocket, hpipe, htimeout, -⟩ := h
  have hport' : configuredPort st = configuredPort st' := by
    simp only [configuredPort, Stack.resolve_congr hport]
  have hcomplete (e : Endpoint) : complete st e = complete st' e := by
    simp only [complete, text?_congr hhost, hport', text?_congr hsocket]
  have htimeout' : resolveTimeout st = resolveTimeout st' := by
    simp only [resolveTimeout, scalar_congr htimeout]
  simp only [resolve, resolveWith, text?_congr hurl, hcomplete, text?_congr hpipe, htimeout']

end Agent

namespace SplitSetting

variable {Old New : Type} [DecidableEq Old] [DecidableEq New] [Choice Old] [Choice New]

def reads (setting : SplitSetting Old New) : List Setting := setting.keys.map .named

theorem reconcile_congr {setting : SplitSetting Old New} (h : AgreeOn setting.reads st st') :
    setting.reconcile st = setting.reconcile st' := by
  simp only [reads, keys, List.map_cons, agreeOn_cons] at h
  obtain ⟨hcommon, hextract, hinject, hextractOld, hinjectOld, -⟩ := h
  have hdirection (d : Direction) (common : List New) :
      setting.reconcileDirection st d common = setting.reconcileDirection st' d common := by
    cases d with
    | extract =>
        simp only [reconcileDirection, DirectionKeys.key, choiceSet_congr hextractOld,
          choiceSet_congr hextract]
    | inject =>
        simp only [reconcileDirection, DirectionKeys.key, choiceSet_congr hinjectOld,
          choiceSet_congr hinject]
  simp only [reconcile, choiceSet_congr hcommon, hdirection]

end SplitSetting

namespace Propagation

def reads : List Setting := [.b3Padding, .extractFirst] ++ styles.reads

theorem resolve_congr (h : AgreeOn reads st st') : resolve st = resolve st' := by
  obtain ⟨hswitches, hstyles⟩ := agreeOn_append.1 h
  simp only [agreeOn_cons] at hswitches
  obtain ⟨hpadding, hfirst, -⟩ := hswitches
  simp only [resolve, SplitSetting.reconcile_congr hstyles, switch_congr hpadding,
    switch_congr hfirst]

end Propagation

namespace IdGeneration

def reads : List Setting := [.secureRandom, .idGeneration]

theorem resolve_congr (h : AgreeOn reads st st') (hstart : st.StartAlike st') :
    resolve st = resolve st' := by
  simp only [reads, agreeOn_cons] at h
  obtain ⟨hsecure, hid, -⟩ := h
  have hname : resolveName st = resolveName st' := by
    simp only [resolveName, hstart.eq, switch_congr hsecure, text?_congr hid]
  simp only [resolve, hname]

end IdGeneration

namespace LongRunning

def reads : List Setting := [.longRunning, .longRunningInitialFlush, .longRunningFlush]

theorem resolve_congr (h : AgreeOn reads st st') : resolve st = resolve st' := by
  simp only [reads, agreeOn_cons] at h
  obtain ⟨henabled, hinitial, hflush, -⟩ := h
  simp only [resolve, switch_congr henabled, scalar_congr hinitial, scalar_congr hflush]

end LongRunning

namespace HeaderTags

def reads : List Setting :=
  [.headerTagsLegacyParsing, .headerTags, .requestHeaderTags, .responseHeaderTags]

theorem resolve_congr (h : AgreeOn reads st st') : resolve st = resolve st' := by
  simp only [reads, agreeOn_cons] at h
  obtain ⟨hlegacy, hboth, hrequest, hresponse, -⟩ := h
  have hresolveLegacy : resolveLegacy st = resolveLegacy st' := by
    simp only [resolveLegacy, List.filter_cons, isSet_congr hrequest, isSet_congr hresponse,
      List.filter_nil, mergedMap_congr hboth]
  have htags (mapping : TagMapping) {s : Setting} (hs : st.hits s.names = st'.hits s.names) :
      st.mergedTags mapping [.headerTags, s] = st'.mergedTags mapping [.headerTags, s] := by
    apply mergedTags_congr
    rw [List.forall_mem_cons, List.forall_mem_singleton]
    exact ⟨hboth, hs⟩
  simp only [resolve, switch_congr hlegacy, hresolveLegacy, htags _ hrequest, htags _ hresponse]

end HeaderTags

namespace Trace

def reads : List Setting :=
  [.partialFlush, .partialFlushMinSpans, .keepLatency, .flushInterval, .traceEnabled,
    .wideTraceIds, .baggageMapping, .serverErrorStatuses, .clientErrorStatuses, .noProxy] ++
      HeaderTags.reads ++ IdGeneration.reads ++ LongRunning.reads

theorem resolve_congr (h : AgreeOn reads st st') (hstart : st.StartAlike st') :
    resolve st = resolve st' := by
  simp only [reads, agreeOn_append, agreeOn_cons] at h
  obtain ⟨⟨⟨hown, hheaders⟩, hids⟩, hlong⟩ := h
  obtain ⟨hpartial, hspans, hlatency, hflush, henabled, hwide, hbaggage, hserver, hclient, hproxy,
    -⟩ := hown
  have htags : st.mergedTags baggageTags [.baggageMapping] =
      st'.mergedTags baggageTags [.baggageMapping] :=
    mergedTags_congr (List.forall_mem_singleton.2 hbaggage) baggageTags
  simp only [resolve, switch_congr hpartial, scalar_congr hspans, scalar_congr hlatency,
    scalar_congr hflush, HeaderTags.resolve_congr hheaders, switch_congr henabled,
    IdGeneration.resolve_congr hids hstart, switch_congr hwide, LongRunning.resolve_congr hlong,
    htags, statuses_congr hserver, statuses_congr hclient, list_congr hproxy]

end Trace

namespace Profiling

def reads : List Setting :=
  [.profiling, .profilingStartDelay, .profilingStartForceFirst, .profilingAgentless,
    .profilingTags, .profilingUrl]

theorem resolve_congr (h : AgreeOn reads st st') : resolve st = resolve st' := by
  simp only [reads, agreeOn_cons] at h
  obtain ⟨henablement, hdelay, hfirst, hagentless, htags, hurl, -⟩ := h
  simp only [resolve, choice_congr henablement, scalar_congr hdelay, switch_congr hfirst,
    switch_congr hagentless, mergedMap_congr htags, text?_congr hurl]

end Profiling

namespace Telemetry

def reads : List Setting :=
  [.telemetry, .telemetryHeartbeat, .telemetryMetrics, .telemetryExtendedHeartbeat]

theorem resolve_congr (h : AgreeOn reads st st') : resolve st = resolve st' := by
  simp only [reads, agreeOn_cons] at h
  obtain ⟨henabled, hheartbeat, hmetrics, hextended, -⟩ := h
  simp only [resolve, resolvePeriod, switch_congr henabled, scalar_congr hheartbeat,
    scalar_congr hmetrics, scalar_congr hextended]

end Telemetry

namespace RuntimeMetrics

def reads : List Setting := [.runtimeMetrics, .jmxFetch]

theorem resolve_congr (h : AgreeOn reads st st') : resolve st = resolve st' := by
  simp only [reads, agreeOn_cons] at h
  obtain ⟨henabled, hfetch, -⟩ := h
  simp only [resolve, switch_congr henabled, switch_congr hfetch]

end RuntimeMetrics

namespace CiVisibility

def reads : List Setting := [.ciVisibility, .ciVisibilityAgentless, .ciVisibilityAgentlessUrl]

theorem resolve_congr (h : AgreeOn reads st st') : resolve readName st = resolve readName st' := by
  simp only [reads, agreeOn_cons] at h
  obtain ⟨henabled, hagentless, hurl, -⟩ := h
  simp only [resolve, resolveWith, resolveUrl, text?_congr hurl, switch_congr henabled,
    switch_congr hagentless]

end CiVisibility

namespace LogSubmission

def reads : List Setting :=
  [.logSubmission, .logSubmissionQueueSize, .logSubmissionLevel, .logSubmissionUrl]

theorem resolve_congr (h : AgreeOn reads st st') (ciVisibility : Bool) :
    resolve st ciVisibility = resolve st' ciVisibility := by
  simp only [reads, agreeOn_cons] at h
  obtain ⟨henabled, hsize, hlevel, hurl, -⟩ := h
  simp only [resolve, switch_congr henabled, scalar_congr hsize, textOr_congr hlevel,
    text?_congr hurl]

end LogSubmission

namespace Credentials

def secrets : List Setting := [.apiKey, .profilingApiKey, .oldestApiKey, .applicationKey]

def fileSettings : List Setting :=
  [.apiKeyFile, .profilingApiKeyFile, .oldestApiKeyFile, .applicationKeyFile]

def reads : List Setting := secrets ++ fileSettings

theorem fromFile_congr {s : Setting} (h : st.hits s.names = st'.hits s.names)
    (files : FileSystem) : fromFile files st s = fromFile files st' s := by
  simp only [fromFile, text?_congr h]

theorem Generation.resolve_congr {g : Generation} (hg : g ∈ generations)
    (hkey : (st.heard g.key).hits g.key.names = (st'.heard g.key).hits g.key.names)
    (hfile : st.hits g.file.names = st'.hits g.file.names) (files : FileSystem) :
    g.resolve files st = g.resolve files st' := by
  have hdirect : g.direct st = g.direct st' := by
    rw [Generation.direct_eq hg, Generation.direct_eq hg, text?_congr hkey]
  simp only [Generation.resolve, hdirect, fromFile_congr hfile]

theorem firstKey_congr {gs : List Generation} (hgs : gs ⊆ generations)
    (h : ∀ g ∈ gs, (st.heard g.key).hits g.key.names = (st'.heard g.key).hits g.key.names ∧
      st.hits g.file.names = st'.hits g.file.names) (files : FileSystem) :
    firstKey files st gs = firstKey files st' gs := by
  induction gs with
  | nil => rfl
  | cons g rest ih =>
      obtain ⟨hg, hrest⟩ := List.cons_subset.1 hgs
      obtain ⟨⟨hkey, hfile⟩, halike⟩ := List.forall_mem_cons.1 h
      simp only [firstKey, Generation.resolve_congr hg hkey hfile, ih hrest halike]

theorem resolve_congr (hsecrets : HeardAlike secrets st st') (hfiles : AgreeOn fileSettings st st')
    (files : FileSystem) : resolve files st = resolve files st' := by
  have halike : ∀ g ∈ generations,
      (st.heard g.key).hits g.key.names = (st'.heard g.key).hits g.key.names ∧
        st.hits g.file.names = st'.hits g.file.names := by
    have hsettings : ∀ g ∈ generations, g.key ∈ secrets ∧ g.file ∈ fileSettings := by decide
    intro g hg
    obtain ⟨hkey, hfile⟩ := hsettings g hg
    exact ⟨hsecrets g.key hkey, hfiles g.file hfile⟩
  obtain ⟨⟨hkey, hfile⟩, hapiKeys⟩ := List.forall_mem_cons.1 halike
  have hapi : resolveApiKey files st = resolveApiKey files st' :=
    firstKey_congr (List.subset_cons_self _ _) hapiKeys files
  have happ : resolveApplicationKey files st = resolveApplicationKey files st' :=
    Generation.resolve_congr List.mem_cons_self hkey hfile files
  simp only [resolve, hapi, happ]

end Credentials

namespace Config

def openReads : List Setting :=
  Service.reads ++ Agent.reads ++ Propagation.reads ++ Trace.reads ++ Profiling.reads ++
    Telemetry.reads ++ RuntimeMetrics.reads ++ CiVisibility.reads ++ LogSubmission.reads

def reads : List Setting := openReads ++ Credentials.reads

theorem notMem_credentialKeys :
    ∀ s ∈ openReads ++ Credentials.fileSettings, ∀ name ∈ s.names, name ∉ credentialKeys := by
  decide +kernel

theorem resolve_startAlike_congr (hopen : AgreeOn openReads st st')
    (hfiles : AgreeOn Credentials.fileSettings st st')
    (hsecrets : HeardAlike Credentials.secrets st st') (hstart : st.StartAlike st')
    (files : FileSystem) : resolve readName files st = resolve readName files st' := by
  simp only [openReads, agreeOn_append] at hopen
  obtain ⟨⟨⟨⟨⟨⟨⟨⟨hservice, hagent⟩, hpropagation⟩, htrace⟩, hprofiling⟩, htelemetry⟩, hmetrics⟩,
    hvisibility⟩, hlogs⟩ := hopen
  simp only [resolve, CiVisibility.resolve_congr hvisibility, Service.resolve_congr hservice,
    Agent.resolve_congr hagent, Credentials.resolve_congr hsecrets hfiles,
    Propagation.resolve_congr hpropagation, Trace.resolve_congr htrace hstart,
    Profiling.resolve_congr hprofiling, Telemetry.resolve_congr htelemetry,
    RuntimeMetrics.resolve_congr hmetrics, LogSubmission.resolve_congr hlogs]

theorem resolve_heard_congr (hopen : AgreeOn openReads st st')
    (hfiles : AgreeOn Credentials.fileSettings st st')
    (hsecrets : HeardAlike Credentials.secrets st st')
    (hraw : st.raw? Setting.initializationType = st'.raw? Setting.initializationType)
    (files : FileSystem) : resolve readName files st = resolve readName files st' :=
  resolve_startAlike_congr hopen hfiles hsecrets (.of_eq hraw) files

theorem resolve_congr (h : AgreeOn reads st st')
    (hraw : st.raw? Setting.initializationType = st'.raw? Setting.initializationType)
    (files : FileSystem) : resolve readName files st = resolve readName files st' := by
  obtain ⟨hopen, hcredentials⟩ := agreeOn_append.1 h
  obtain ⟨hsecrets, hfiles⟩ := agreeOn_append.1 hcredentials
  exact resolve_heard_congr hopen hfiles hsecrets.heardAlike hraw files

end Config

end TracerSettings
