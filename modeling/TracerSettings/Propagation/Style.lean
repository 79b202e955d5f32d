import TracerSettings.Tokens

namespace TracerSettings.Propagation

inductive Style where
  | datadog
  | b3Single
  | b3Multi
  | haystack
  | xray
  | traceContext
  | none
  deriving DecidableEq, Repr

namespace Style

def ofName? : String → Option Style
  | "datadog" => some .datadog
  | "b3single" => some .b3Single
  | "b3 single header" => some .b3Single
  | "b3multi" => some .b3Multi
  | "b3" => some .b3Multi
  | "haystack" => some .haystack
  | "xray" => some .xray
  | "tracecontext" => some .traceContext
  | "none" => some .none
  | _ => Option.none

def name : Style → String
  | .datadog => "datadog"
  | .b3Single => "b3single"
  | .b3Multi => "b3multi"
  | .haystack => "haystack"
  | .xray => "xray"
  | .traceContext => "tracecontext"
  | .none => "none"

def label : Style → String
  | .datadog => "Datadog"
  | .b3Single => "B3Single"
  | .b3Multi => "B3Multi"
  | .haystack => "Haystack"
  | .xray => "Xray"
  | .traceContext => "TraceContext"
  | .none => "None"

instance : Choice Style := ⟨ofName?, name⟩

end Style

inductive LegacyStyle where
  | datadog
  | b3
  | haystack
  | xray
  deriving DecidableEq, Repr

namespace LegacyStyle

def ofName? : String → Option LegacyStyle
  | "datadog" => some .datadog
  | "b3" => some .b3
  | "haystack" => some .haystack
  | "xray" => some .xray
  | _ => none

def name : LegacyStyle → String
  | .datadog => "datadog"
  | .b3 => "b3"
  | .haystack => "haystack"
  | .xray => "xray"

instance : Choice LegacyStyle := ⟨ofName?, name⟩

/-- The current styles that a legacy one stands for. -/
def current : LegacyStyle → List Style
  | .datadog => [.datadog]
  | .b3 => [.b3Single, .b3Multi]
  | .haystack => [.haystack]
  | .xray => [.xray]

theorem ofName?_name (s : LegacyStyle) : ofName? s.name = some s := by
  cases s <;> rfl

end LegacyStyle

end TracerSettings.Propagation
