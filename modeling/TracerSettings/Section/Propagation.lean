import TracerSettings.Propagation.Style
import TracerSettings.SplitSetting

namespace TracerSettings

structure Propagation where
  extract : List Propagation.Style
  inject : List Propagation.Style
  legacyExtract : List Propagation.LegacyStyle
  legacyInject : List Propagation.LegacyStyle
  b3Padding : Bool
  extractFirst : Bool
  extractOutcome : Outcome
  injectOutcome : Outcome
  deriving DecidableEq, Repr

namespace Propagation

def default : Propagation where
  extract := [.datadog, .traceContext]
  inject := [.datadog, .traceContext]
  legacyExtract := [.datadog]
  legacyInject := [.datadog]
  b3Padding := true
  extractFirst := false
  extractOutcome := .default
  injectOutcome := .default

def styles : SplitSetting LegacyStyle Style where
  common := "trace.propagation.style"
  current := ⟨"trace.propagation.style.extract", "trace.propagation.style.inject"⟩
  deprecated := ⟨"propagation.style.extract", "propagation.style.inject"⟩
  deprecatedDelimiters := .commaOrBlank
  currentDelimiters := .comma
  successors := LegacyStyle.current
  defaultCurrent := [.datadog, .traceContext]
  defaultLegacy := [.datadog]

def resolve (st : Stack) : Noted Propagation := do
  let reconciled ← styles.reconcile st
  let b3Padding ← st.switch .b3Padding true
  let extractFirst ← st.switch .extractFirst false
  return {
    extract := reconciled.extract.values
    inject := reconciled.inject.values
    legacyExtract := reconciled.extract.legacy
    legacyInject := reconciled.inject.legacy
    b3Padding
    extractFirst
    extractOutcome := reconciled.extract.outcome
    injectOutcome := reconciled.inject.outcome
  }

end Propagation

end TracerSettings
