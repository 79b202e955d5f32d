import TracerSettings.Section.Agent
import TracerSettings.Section.CiVisibility
import TracerSettings.Section.Credentials
import TracerSettings.Section.Profiling
import TracerSettings.Section.Propagation
import TracerSettings.Section.Service
import TracerSettings.Section.Telemetry
import TracerSettings.Section.Trace

namespace TracerSettings

structure Config where
  service : Service
  agent : Agent
  credentials : Credentials
  propagation : Propagation
  trace : Trace
  profiling : Profiling
  telemetry : Telemetry
  runtimeMetrics : RuntimeMetrics
  ciVisibility : CiVisibility
  logSubmission : LogSubmission
  deriving DecidableEq, Repr

/-- Settings that cannot work together. -/
inductive Contradiction where
  | agentlessWithoutApiKey
  deriving DecidableEq, Repr

def Contradiction.message : Contradiction → String
  | .agentlessWithoutApiKey =>
      "Fatal configuration error: Attempt to start in Agentless mode without API key. " ++
        "Please ensure that either an API key is configured, or the tracer is set up to work " ++
        "with the Agent"

namespace Config

def default : Config where
  service := .default
  agent := .default
  credentials := .default
  propagation := .default
  trace := .default
  profiling := .default
  telemetry := .default
  runtimeMetrics := .default
  ciVisibility := .default
  logSubmission := .default

def text (c : Config) : String :=
  "Config\x7bservice=" ++ c.service.name ++
    ", env=" ++ c.service.env.getD "" ++
    ", version=" ++ c.service.version.getD "" ++
    ", agent_url=" ++ c.agent.url ++
    ", api_key=" ++ (Credentials.masked c.credentials.apiKey).getD "" ++
    ", propagation_extract=" ++ bracketed (c.propagation.extract.map Propagation.Style.label) ++
    ", propagation_inject=" ++ bracketed (c.propagation.inject.map Propagation.Style.label) ++
    ", id_generation=" ++ c.trace.idGeneration.name ++
    ", profiling=" ++ c.profiling.enablement.name ++
    ", ci_visibility=" ++ switchText c.ciVisibility.enabled ++ "\x7d"

def resolve (readName : Url.Host.NameReader) (files : FileSystem) (st : Stack) : Noted Config := do
  let ciVisibility ← CiVisibility.resolve readName st
  let service ← Service.resolve st
  let agent ← Agent.resolve readName st
  let credentials ← Credentials.resolve files st
  let propagation ← Propagation.resolve st
  let trace ← Trace.resolve st
  let profiling ← Profiling.resolve st
  let telemetry ← Telemetry.resolve st
  let runtimeMetrics ← RuntimeMetrics.resolve st
  let logSubmission ← LogSubmission.resolve st ciVisibility.enabled
  return { service, agent, credentials, propagation, trace, profiling, telemetry, runtimeMetrics,
           ciVisibility, logSubmission }

def hasApiKey (c : Config) : Bool := c.credentials.apiKey.any (· != "")

/-- Uploading profiles without an agent and without an API key is likely to fail, and that is
reported; test results are not even tried. -/
def check (c : Config) : Noted (Except Contradiction Config) := do
  if c.profiling.enablement.isActive && c.profiling.agentless && !c.hasApiKey then
    report (.missingCredential Setting.profilingAgentless.key Setting.apiKey.key)
  if c.ciVisibility.enabled && c.ciVisibility.agentless && !c.hasApiKey then
    return .error .agentlessWithoutApiKey
  return .ok c

end Config

end TracerSettings
