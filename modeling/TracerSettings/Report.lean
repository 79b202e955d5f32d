import TracerSettings.Build
import TracerSettings.Json
import TracerSettings.Toml.Printer

namespace TracerSettings

/-- What reports show of a configuration. A report on one section goes through a TOML table, with
wide numbers and nothing absent; a report on everything in JSON shows the sections as they are. -/
inductive Shape where
  | text (value : String)
  | optional (value : Option String)
  | integer (value : Int)
  | single (value : Binary)
  | boolean (value : Bool)
  | texts (values : List String)
  | table (fields : List (String × Shape))

/-- Positional for exponents in the given range; whole numbers keep a point, and a tie goes to the
even digit. -/
def Json.realLayout (low high : Int) : Binary.Layout :=
  ⟨.toEven, ".0", fun x => low ≤ x && x ≤ high, "null", "null"⟩

def Json.real (layout : Binary.Layout) (f : Format) (x : Binary) : Json :=
  match x with
  | .finite .. => .number (x.text layout f)
  | _ => .null

def Json.single (x : Binary) : Json := .real (realLayout (-6) 12) .single x

def Json.double (x : Binary) : Json := .real (realLayout (-5) 15) .double x

mutual

def Json.ofToml : Toml.Value → Json
  | .text s => .text s
  | .integer n => .integer n
  | .real x => .double x
  | .boolean b => .boolean b
  | .datetime d => .text d.text
  | .array items => .array (Json.ofTomlItems items)
  | .table entries => .object (Json.ofTomlFields entries)

def Json.ofTomlItems : List Toml.Value → List Json
  | [] => []
  | item :: rest => Json.ofToml item :: Json.ofTomlItems rest

def Json.ofTomlFields : List (String × Toml.Value) → List (String × Json)
  | [] => []
  | (key, value) :: rest => (key, Json.ofToml value) :: Json.ofTomlFields rest

end

namespace Shape

mutual

def toJson : Shape → Json
  | .text s => .text s
  | .optional s => .optionalText s
  | .integer n => .integer n
  | .single x => .single x
  | .boolean b => .boolean b
  | .texts values => .array (values.map .text)
  | .table fields => .object (fieldsToJson fields)

def fieldsToJson : List (String × Shape) → List (String × Json)
  | [] => []
  | (key, shape) :: rest => (key, toJson shape) :: fieldsToJson rest

end

mutual

/-- An absent value has no form in TOML. -/
def toToml? : Shape → Option Toml.Value
  | .text s => some (.text s)
  | .optional s => s.map .text
  | .integer n => some (.integer n)
  | .single x => some (.real x)
  | .boolean b => some (.boolean b)
  | .texts values => some (.array (values.map .text))
  | .table fields => some (.table (toEntries fields))

def toEntries : List (String × Shape) → Toml.Entries
  | [] => []
  | (key, shape) :: rest =>
      match toToml? shape with
      | some v => (key, v) :: toEntries rest
      | none => toEntries rest

end

def ofMap (m : OrderedMap) : Shape := .table (m.entries.map fun (k, v) => (k, .text v))

def ofOutcome (o : Outcome) : Shape :=
  match o.key? with
  | some key => .table [("kind", .text o.kind), ("key", .text key)]
  | none => .table [("kind", .text o.kind)]

end Shape

def Service.shape (s : Service) : Shape := .table [
  ("name", .text s.name),
  ("name_set_by_user", .boolean s.nameSetByUser),
  ("env", .optional s.env),
  ("version", .optional s.version),
  ("site", .text s.site),
  ("tags", .ofMap s.tags),
  ("service_mapping", .ofMap s.serviceMapping),
  ("split_by_tags", .texts s.splitByTags)]

def Agent.shape (a : Agent) : Shape := .table [
  ("host", .text a.host),
  ("port", .integer a.port),
  ("url", .text a.url),
  ("unix_domain_socket", .optional a.socket),
  ("named_pipe", .optional a.pipe),
  ("timeout_secs", .integer a.timeoutSeconds),
  ("configured_using_default", .boolean a.usesDefault)]

def Credentials.shape (c : Credentials) : Shape := .table [
  ("api_key", .optional (masked c.apiKey)),
  ("application_key", .optional (masked c.applicationKey))]

def Propagation.shape (p : Propagation) : Shape := .table [
  ("extract", .texts (p.extract.map Style.name)),
  ("inject", .texts (p.inject.map Style.name)),
  ("legacy_extract", .texts (p.legacyExtract.map LegacyStyle.name)),
  ("legacy_inject", .texts (p.legacyInject.map LegacyStyle.name)),
  ("b3_padding_enabled", .boolean p.b3Padding),
  ("extract_first", .boolean p.extractFirst),
  ("extract_outcome", .ofOutcome p.extractOutcome),
  ("inject_outcome", .ofOutcome p.injectOutcome)]

def LongRunning.shape (l : LongRunning) : Shape := .table [
  ("enabled", .boolean l.enabled),
  ("initial_flush_interval_secs", .integer l.initialFlush),
  ("flush_interval_secs", .integer l.flush)]

def Trace.shape (t : Trace) : Shape := .table [
  ("enabled", .boolean t.enabled),
  ("id_generation", .text t.idGeneration.name),
  ("id_128_bit_generation", .boolean t.wideIds),
  ("partial_flush_enabled", .boolean t.partialFlush),
  ("partial_flush_min_spans", .integer t.partialFlushMinSpans),
  ("keep_latency_threshold_ms", .integer t.keepLatencyMillis),
  ("keep_latency_threshold_enabled", .boolean t.keepLatency),
  ("flush_interval_secs", .single t.flushSeconds),
  ("long_running", t.longRunning.shape),
  ("header_tags_legacy_parsing", .boolean t.headerTags.legacyParsing),
  ("request_header_tags", .ofMap t.headerTags.request),
  ("response_header_tags", .ofMap t.headerTags.response),
  ("baggage_mapping", .ofMap t.baggageMapping),
  ("http_server_error_statuses", .text t.serverErrors.render),
  ("http_client_error_statuses", .text t.clientErrors.render),
  ("no_proxy_hosts", .texts t.noProxyHosts)]

def Profiling.shape (p : Profiling) : Shape := .table [
  ("enablement", .text p.enablement.word),
  ("agentless", .boolean p.agentless),
  ("start_delay_secs", .integer p.startDelaySeconds),
  ("start_force_first", .boolean p.startForceFirst),
  ("tags", .ofMap p.tags),
  ("url", .optional p.url)]

def Telemetry.shape (t : Telemetry) : Shape := .table [
  ("enabled", .boolean t.enabled),
  ("heartbeat_interval_secs", .single t.heartbeatSeconds),
  ("metrics_interval_secs", .single t.metricsSeconds),
  ("extended_heartbeat_interval_secs", .integer t.extendedHeartbeatSeconds)]

def RuntimeMetrics.shape (r : RuntimeMetrics) : Shape := .table [
  ("enabled", .boolean r.enabled),
  ("jmxfetch_enabled", .boolean r.jmxFetch)]

def CiVisibility.shape (c : CiVisibility) : Shape := .table [
  ("enabled", .boolean c.enabled),
  ("agentless_enabled", .boolean c.agentless),
  ("agentless_url", .optional c.agentlessUrl)]

def LogSubmission.shape (l : LogSubmission) : Shape := .table [
  ("enabled", .boolean l.enabled),
  ("queue_size", .integer l.queueSize),
  ("level", .text l.level),
  ("url", .optional l.url),
  ("product", .text l.product)]

def Config.sections (c : Config) : List (String × Shape) := [
  ("service", c.service.shape),
  ("agent", c.agent.shape),
  ("credentials", c.credentials.shape),
  ("propagation", c.propagation.shape),
  ("trace", c.trace.shape),
  ("profiling", c.profiling.shape),
  ("telemetry", c.telemetry.shape),
  ("runtime_metrics", c.runtimeMetrics.shape),
  ("ci_visibility", c.ciVisibility.shape),
  ("log_submission", c.logSubmission.shape)]

def Config.section? (c : Config) (name : String) : Option Toml.Value := do
  let shape ← c.sections.lookup name
  return (← shape.toToml?).sorted

inductive ReportFormat where
  | toml
  | json
  deriving DecidableEq, Repr

namespace Resolved

def headerPart (title : String) (lines : List String) : String :=
  if lines.isEmpty then ""
  else "#\n# " ++ title ++ ":\n" ++ String.join (lines.map fun line => "#   " ++ line ++ "\n")

def settingLine (entry : String × Collected) : String :=
  entry.1 ++ " = " ++ entry.2.value ++ "  [" ++ entry.2.origin.text ++ "]"

def header (r : Resolved) : String :=
  "# Resolved tracer configuration\n" ++
    headerPart "Loaded files" r.loadedFiles ++
    headerPart "Settings by origin" (r.collected.map settingLine) ++
    headerPart "Diagnostics" (r.diagnostics.map Diagnostic.message)

def tomlBody? (r : Resolved) : Option String → Option Toml.Entries
  | none => some (Shape.toEntries r.config.sections)
  | some name =>
      match r.config.section? name with
      | some (.table entries) => some entries
      | _ => none

def collectedJson (entry : String × Collected) : String × Json :=
  (entry.1,
    .object [("value", .text entry.2.value), ("origin", .text entry.2.origin.name)])

def jsonBody? (r : Resolved) : Option String → Option Json
  | none =>
      some (.object [
        ("config", .object (Shape.fieldsToJson r.config.sections)),
        ("sources", .object (r.collected.map collectedJson)),
        ("diagnostics", .array (r.diagnostics.map fun d => .text d.message)),
        ("loaded_files", .array (r.loadedFiles.map .text))])
  | some name => (r.config.section? name).map Json.ofToml

/-- The report on everything or on one section; there is none on a section that does not exist. -/
def show? (r : Resolved) (section? : Option String) : ReportFormat → Option String
  | .toml => (r.tomlBody? section?).map fun body => r.header ++ "\n" ++ Toml.Printer.document body
  | .json => (r.jsonBody? section?).map (Json.pretty "")

end Resolved

end TracerSettings
