import TracerSettings.Stack.Typed

namespace TracerSettings

/-- How ids are generated; sequential ones are for tests only. -/
inductive IdGeneration where
  | random
  | secureRandom
  | sequential
  deriving DecidableEq, Repr

namespace IdGeneration

def isSupported : IdGeneration → Bool
  | .sequential => false
  | _ => true

def ofName? : String → Option IdGeneration
  | "random" => some .random
  | "secure_random" => some .secureRandom
  | "sequential" => some .sequential
  | _ => none

def name : IdGeneration → String
  | .random => "RANDOM"
  | .secureRandom => "SECURE_RANDOM"
  | .sequential => "SEQUENTIAL"

instance : Choice IdGeneration := ⟨ofName?, name⟩

/-- A host that resumes one memory image many times. -/
def snapStart : String := "snap-start"

/-- The name of the strategy. Secure random ids are needed where memory images are resumed. -/
def resolveName (st : Stack) : Noted (Option String) := do
  if st.raw? Setting.initializationType = some snapStart then return some (name .secureRandom)
  if ← st.switch .secureRandom false then return some (name .secureRandom)
  st.text? .idGeneration

def resolve (st : Stack) : Noted IdGeneration := do
  let strategy ←
    match ← resolveName st with
    | none => pure .random
    | some raw =>
        match Choice.read? raw with
        | some strategy => pure strategy
        | none => do
            report (.unrecognizedValue Setting.idGeneration.key raw)
            pure .random
  if !strategy.isSupported then
    report (.unsupportedStrategy Setting.idGeneration.key strategy.name)
  return strategy

end IdGeneration

structure LongRunning where
  enabled : Bool
  initialFlush : Int
  flush : Int
  deriving DecidableEq, Repr

namespace LongRunning

def default : LongRunning := ⟨false, 20, 120⟩

/-- The limits hold only where the reports are on. -/
def resolve (st : Stack) : Noted LongRunning := do
  let enabled ← st.switch .longRunning default.enabled
  let initial ← st.scalar .int64 .longRunningInitialFlush default.initialFlush
  let flush ← st.scalar .int64 .longRunningFlush default.flush
  if !enabled then return ⟨enabled, initial, flush⟩
  let initial ← Scalar.int64.within Setting.longRunningInitialFlush.key initialFlushLimits.1
    initialFlushLimits.2 default.initialFlush initial
  let flush ← Scalar.int64.within Setting.longRunningFlush.key flushLimits.1 flushLimits.2
    default.flush flush
  return ⟨enabled, initial, flush⟩

end LongRunning

structure HeaderTags where
  legacyParsing : Bool
  request : OrderedMap
  response : OrderedMap
  deriving DecidableEq, Repr

namespace HeaderTags

def requestMapping : TagMapping := ⟨some "http.request.headers.", true⟩

def responseMapping : TagMapping := ⟨some "http.response.headers.", true⟩

/-- Legacy tags have one setting for requests; the separate settings are ignored. -/
def resolveLegacy (st : Stack) : Noted HeaderTags := do
  let ignored := [Setting.requestHeaderTags, Setting.responseHeaderTags].filter st.isSet
  reportAll (ignored.map fun s => .ignoredSetting s.key Setting.headerTagsLegacyParsing.key)
  return ⟨true, ← st.mergedMap .headerTags, .empty⟩

def resolve (st : Stack) : Noted HeaderTags := do
  if ← st.switch .headerTagsLegacyParsing false then resolveLegacy st
  else
    let request ← st.mergedTags requestMapping [.headerTags, .requestHeaderTags]
    let response ← st.mergedTags responseMapping [.headerTags, .responseHeaderTags]
    return ⟨false, request, response⟩

end HeaderTags

structure Trace where
  enabled : Bool
  idGeneration : IdGeneration
  wideIds : Bool
  partialFlush : Bool
  /-- Finished spans that cause a partial flush; zero if there is none. -/
  partialFlushMinSpans : Int
  keepLatencyMillis : Int
  keepLatency : Bool
  flushSeconds : Binary
  longRunning : LongRunning
  headerTags : HeaderTags
  baggageMapping : OrderedMap
  serverErrors : StatusSet
  clientErrors : StatusSet
  noProxyHosts : List String
  deriving DecidableEq, Repr

namespace Trace

def default : Trace where
  enabled := true
  idGeneration := .random
  wideIds := false
  partialFlush := true
  partialFlushMinSpans := 1000
  keepLatencyMillis := 0
  keepLatency := false
  flushSeconds := .ofNat 1
  longRunning := .default
  headerTags := ⟨false, .empty, .empty⟩
  baggageMapping := .empty
  serverErrors := .serverErrors
  clientErrors := .clientErrors
  noProxyHosts := []

def baggageTags : TagMapping := ⟨none, true⟩

/-- Slow traces are kept by a threshold only where partial flushes do not send them early. -/
def resolve (st : Stack) : Noted Trace := do
  let partialFlush ← st.switch .partialFlush default.partialFlush
  let partialFlushMinSpans ←
    if partialFlush then st.scalar .int32 .partialFlushMinSpans default.partialFlushMinSpans
    else pure 0
  let keepLatencyMillis ← st.scalar .int32 .keepLatency default.keepLatencyMillis
  let flushSeconds ← st.scalar .single .flushInterval default.flushSeconds
  let flushSeconds ← Scalar.positive Setting.flushInterval.key default.flushSeconds flushSeconds
  let headerTags ← HeaderTags.resolve st
  let enabled ← st.switch .traceEnabled default.enabled
  let idGeneration ← IdGeneration.resolve st
  let wideIds ← st.switch .wideTraceIds default.wideIds
  let longRunning ← LongRunning.resolve st
  let baggageMapping ← st.mergedTags baggageTags [.baggageMapping]
  let serverErrors ← st.statuses .serverErrorStatuses default.serverErrors
  let clientErrors ← st.statuses .clientErrorStatuses default.clientErrors
  let noProxyHosts ← st.list .commaOrBlank .noProxy
  return {
    enabled, idGeneration, wideIds, partialFlush, partialFlushMinSpans, keepLatencyMillis
    keepLatency := !partialFlush && 0 < keepLatencyMillis
    flushSeconds, longRunning, headerTags, baggageMapping, serverErrors, clientErrors, noProxyHosts
  }

end Trace

end TracerSettings
