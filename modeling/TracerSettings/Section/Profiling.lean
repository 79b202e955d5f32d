import TracerSettings.Stack.Typed

namespace TracerSettings

/-- How the profiler was switched: by hand, by the host at startup, or by whoever injected it. -/
inductive Enablement where
  | enabled
  | disabled
  | auto
  | injected
  deriving DecidableEq, Repr

namespace Enablement

def isActive : Enablement → Bool
  | .disabled => false
  | _ => true

def isManaged : Enablement → Bool
  | .auto => true
  | .injected => true
  | _ => false

def ofName? : String → Option Enablement
  | "true" => some .enabled
  | "1" => some .enabled
  | "false" => some .disabled
  | "0" => some .disabled
  | "auto" => some .auto
  | "injected" => some .injected
  | _ => none

def name : Enablement → String
  | .enabled => "true"
  | .disabled => "false"
  | .auto => "auto"
  | .injected => "injected"

def word : Enablement → String
  | .enabled => "enabled"
  | .disabled => "disabled"
  | .auto => "auto"
  | .injected => "injected"

instance : Choice Enablement := ⟨ofName?, name⟩

end Enablement

structure Profiling where
  enablement : Enablement
  agentless : Bool
  startDelaySeconds : Int
  startForceFirst : Bool
  tags : OrderedMap
  url : Option String
  deriving DecidableEq, Repr

namespace Profiling

def default : Profiling where
  enablement := .disabled
  agentless := false
  startDelaySeconds := 10
  startForceFirst := false
  tags := .empty
  url := none

/-- The default in the place of a value of one's own where the host decides. -/
def managed {α : Type} [DecidableEq α] (kind : Scalar α) (s : Setting) (mode : Enablement)
    (default value : α) : Noted α := do
  if !mode.isManaged || value = default then return value
  report (.ignoredOverride s.key (kind.text value) (kind.text default)
    ("profiling enablement is set to " ++ mode.name))
  return default

def resolve (st : Stack) : Noted Profiling := do
  let enablement ← st.choice .profiling default.enablement
  let delay ← st.scalar .int32 .profilingStartDelay default.startDelaySeconds
  let first ← st.switch .profilingStartForceFirst default.startForceFirst
  let startDelaySeconds ←
    managed .int32 .profilingStartDelay enablement default.startDelaySeconds delay
  let startForceFirst ←
    managed .switch .profilingStartForceFirst enablement default.startForceFirst first
  let agentless ← st.switch .profilingAgentless default.agentless
  let tags ← st.mergedMap .profilingTags
  let url ← st.text? .profilingUrl
  return { enablement, agentless, startDelaySeconds, startForceFirst, tags, url }

end Profiling

end TracerSettings
