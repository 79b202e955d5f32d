namespace TracerSettings

/-- A setting is reported under its key. Its aliases are read where the key has no value. -/
structure Setting where
  key : String
  aliases : List String
  deriving DecidableEq, Repr

namespace Setting

def names (s : Setting) : List String := s.key :: s.aliases

def named (key : String) : Setting := ⟨key, []⟩

def service : Setting := ⟨"service", ["service.name"]⟩

def env : Setting := named "env"

def version : Setting := named "version"

def site : Setting := named "site"

def globalTags : Setting := named "trace.global.tags"

def traceTags : Setting := ⟨"trace.tags", ["tags"]⟩

def serviceMapping : Setting := named "service.mapping"

def splitByTags : Setting := named "trace.split-by-tags"

def apiKey : Setting := named "api-key"

def apiKeyFile : Setting := named "api-key-file"

def profilingApiKey : Setting := named "profiling.api-key"

def profilingApiKeyFile : Setting := named "profiling.api-key-file"

def oldestApiKey : Setting := named "profiling.apikey"

def oldestApiKeyFile : Setting := named "profiling.apikey.file"

def applicationKey : Setting := named "application-key"

def applicationKeyFile : Setting := named "application-key-file"

def agentUrl : Setting := named "trace.agent.url"

def agentHost : Setting := named "agent.host"

def agentPort : Setting := ⟨"trace.agent.port", ["agent.port"]⟩

def agentSocket : Setting := named "trace.agent.unix.domain.socket"

def agentPipe : Setting := named "trace.pipe.name"

def agentTimeout : Setting := named "trace.agent.timeout"

def b3Padding : Setting := named "trace.propagation.style.b3.padding.enabled"

def extractFirst : Setting := named "trace.propagation.extract.first"

def traceEnabled : Setting := named "trace.enabled"

def idGeneration : Setting := named "id.generation.strategy"

def secureRandom : Setting := named "secure.random"

def wideTraceIds : Setting := named "trace.128.bit.traceid.generation.enabled"

def partialFlush : Setting := named "trace.partial.flush.enabled"

def partialFlushMinSpans : Setting := named "trace.partial.flush.min.spans"

def keepLatency : Setting := named "trace.keep.latency.threshold.ms"

def flushInterval : Setting := named "trace.flush.interval"

def longRunning : Setting := named "trace.experimental.long-running.enabled"

def longRunningInitialFlush : Setting :=
  named "trace.experimental.long-running.initial.flush.interval"

def longRunningFlush : Setting := named "trace.experimental.long-running.flush.interval"

def headerTags : Setting := named "trace.header.tags"

def headerTagsLegacyParsing : Setting := named "trace.header.tags.legacy.parsing.enabled"

def requestHeaderTags : Setting := named "trace.request_header.tags"

def responseHeaderTags : Setting := named "trace.response_header.tags"

def baggageMapping : Setting := named "trace.header.baggage"

def serverErrorStatuses : Setting :=
  ⟨"trace.http.server.error.statuses", ["http.server.error.statuses"]⟩

def clientErrorStatuses : Setting :=
  ⟨"trace.http.client.error.statuses", ["http.client.error.statuses"]⟩

def noProxy : Setting := named "proxy.no_proxy"

def profiling : Setting := named "profiling.enabled"

def profilingAgentless : Setting := named "profiling.agentless"

def profilingStartDelay : Setting := named "profiling.start-delay"

def profilingStartForceFirst : Setting := named "profiling.start-force-first"

def profilingTags : Setting := named "profiling.tags"

def profilingUrl : Setting := named "profiling.url"

def telemetry : Setting := named "instrumentation.telemetry.enabled"

def telemetryHeartbeat : Setting := named "telemetry.heartbeat.interval"

def telemetryMetrics : Setting := named "telemetry.metrics.interval"

def telemetryExtendedHeartbeat : Setting := named "telemetry.extended.heartbeat.interval"

def runtimeMetrics : Setting := named "runtime.metrics.enabled"

def jmxFetch : Setting := named "jmxfetch.enabled"

def ciVisibility : Setting := named "civisibility.enabled"

def ciVisibilityAgentless : Setting := named "civisibility.agentless.enabled"

def ciVisibilityAgentlessUrl : Setting := named "civisibility.agentless.url"

def logSubmission : Setting := named "agentless.log.submission.enabled"

def logSubmissionQueueSize : Setting := named "agentless.log.submission.queue.size"

def logSubmissionLevel : Setting := named "agentless.log.submission.level"

def logSubmissionUrl : Setting := named "agentless.log.submission.url"

def configFile : Setting := named "trace.config"

/-- The variable in which a host of functions tells how it starts them. -/
def initializationType : String := "AWS_LAMBDA_INITIALIZATION_TYPE"

end Setting

end TracerSettings
