import TracerSettings.Stack.Typed
import TracerSettings.Url

namespace TracerSettings

structure CiVisibility where
  enabled : Bool
  agentless : Bool
  agentlessUrl : Option String
  deriving DecidableEq, Repr

namespace CiVisibility

def default : CiVisibility := ⟨false, false, none⟩

/-- A URL that cannot be read is left out. -/
def resolveUrl (readUrl : String → Except UrlError Url) (st : Stack) : Noted (Option String) := do
  match ← st.text? .ciVisibilityAgentlessUrl with
  | none => return none
  | some raw =>
      match readUrl raw with
      | .ok _ => return some raw
      | .error e =>
          report (.invalidValue Setting.ciVisibilityAgentlessUrl.key raw e.message)
          return none

def resolveWith (readUrl : String → Except UrlError Url) (st : Stack) : Noted CiVisibility := do
  let agentlessUrl ← resolveUrl readUrl st
  let enabled ← st.switch .ciVisibility default.enabled
  let agentless ← st.switch .ciVisibilityAgentless default.agentless
  return ⟨enabled, agentless, agentlessUrl⟩

def resolve (readName : Url.Host.NameReader) (st : Stack) : Noted CiVisibility :=
  resolveWith (Url.readWith readName) st

end CiVisibility

structure LogSubmission where
  enabled : Bool
  queueSize : Int
  level : String
  url : Option String
  product : String
  deriving DecidableEq, Repr

namespace LogSubmission

def default : LogSubmission where
  enabled := false
  queueSize := 1024
  level := "INFO"
  url := none
  product := "apm"

def testProduct : String := "citest"

def resolve (st : Stack) (ciVisibility : Bool) : Noted LogSubmission := do
  let enabled ← st.switch .logSubmission default.enabled
  let queueSize ← st.scalar .int32 .logSubmissionQueueSize default.queueSize
  let level ← st.textOr .logSubmissionLevel default.level
  let url ← st.text? .logSubmissionUrl
  return { enabled, queueSize, level, url,
           product := if ciVisibility then testProduct else default.product }

end LogSubmission

end TracerSettings
