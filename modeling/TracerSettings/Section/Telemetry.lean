import TracerSettings.Stack.Typed

namespace TracerSettings

/-- Periods are in seconds. -/
structure Telemetry where
  enabled : Bool
  heartbeatSeconds : Binary
  metricsSeconds : Binary
  extendedHeartbeatSeconds : Int
  deriving DecidableEq, Repr

namespace Telemetry

def default : Telemetry where
  enabled := true
  heartbeatSeconds := .ofNat 60
  metricsSeconds := .ofNat 10
  extendedHeartbeatSeconds := 86400

def resolvePeriod (st : Stack) (s : Setting) (default : Binary) : Noted Binary := do
  let period ← st.scalar .single s default
  Scalar.single.within s.key telemetryLimits.1 telemetryLimits.2 default period

def resolve (st : Stack) : Noted Telemetry := do
  let enabled ← st.switch .telemetry default.enabled
  let heartbeatSeconds ← resolvePeriod st .telemetryHeartbeat default.heartbeatSeconds
  let metricsSeconds ← resolvePeriod st .telemetryMetrics default.metricsSeconds
  let extendedHeartbeatSeconds ←
    st.scalar .int64 .telemetryExtendedHeartbeat default.extendedHeartbeatSeconds
  return { enabled, heartbeatSeconds, metricsSeconds, extendedHeartbeatSeconds }

end Telemetry

structure RuntimeMetrics where
  enabled : Bool
  jmxFetch : Bool
  deriving DecidableEq, Repr

namespace RuntimeMetrics

def default : RuntimeMetrics := ⟨true, true⟩

/-- Without runtime metrics nothing is fetched, nor is it asked whether to. -/
def resolve (st : Stack) : Noted RuntimeMetrics := do
  let enabled ← st.switch .runtimeMetrics default.enabled
  let jmxFetch ← if enabled then st.switch .jmxFetch default.jmxFetch else pure false
  return ⟨enabled, jmxFetch⟩

end RuntimeMetrics

end TracerSettings
