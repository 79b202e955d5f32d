import TracerSettings.Stack.Typed
import TracerSettings.Url

namespace TracerSettings

structure Agent where
  host : String
  port : Nat
  url : String
  socket : Option String
  pipe : Option String
  timeoutSeconds : Nat
  /-- Whether no setting names any part of the endpoint. -/
  usesDefault : Bool
  deriving DecidableEq, Repr

/-- What is known of an endpoint. A URL decides what it names, and other settings are asked only for
the rest. -/
structure Endpoint where
  host : Option String
  port : Option Nat
  socket : Option String
  deriving DecidableEq, Repr

namespace Endpoint

def unknown : Endpoint := ⟨none, none, none⟩

def afterSchemeMark : List Char → Option (List Char)
  | ':' :: '/' :: '/' :: rest => some rest
  | _ :: rest => afterSchemeMark rest
  | [] => none

/-- Whether a port is written in a URL. A port that is the scheme's own is otherwise not told from
an absent one. -/
def writesPort (raw : String) : Bool :=
  let cs := raw.toList
  let authority :=
    ((afterSchemeMark cs).getD cs).takeWhile fun c => c != '/' && c != '?' && c != '#'
  let hostPort := ((Text.cutLast '@' authority).map Prod.snd).getD authority
  match Text.cutLast ':' hostPort with
  | none => false
  | some (host, port) =>
      !port.isEmpty && port.all Char.isDigit &&
        (host.head? != some '[' || host.getLast? == some ']')

/-- What a URL names: a socket under the scheme `unix`, and else a host and perhaps a port. -/
def ofUrl (raw : String) (u : Url) : Endpoint where
  host := (u.host.map Url.Host.text).filter (· != "")
  port := u.port <|> (if writesPort raw then u.effectivePort else none)
  socket := if u.scheme = "unix" then some u.path else none

def isComplete (e : Endpoint) : Bool := e.socket.isSome || (e.host.isSome && e.port.isSome)

end Endpoint

namespace Agent

def default : Agent where
  host := "localhost"
  port := 8126
  url := "http://localhost:8126"
  socket := none
  pipe := none
  timeoutSeconds := 10
  usesDefault := true

def endpointUrl (host : String) (port : Nat) : String :=
  "http://" ++ host ++ ":" ++ toString port

def writtenEndpoint (readUrl : String → Except UrlError Url) (raw : Option String) :
    Noted Endpoint :=
  match raw with
  | none => pure .unknown
  | some raw =>
      match readUrl raw with
      | .ok u => pure (.ofUrl raw u)
      | .error e => do
          report (.invalidValue Setting.agentUrl.key raw (e.message ++ "; ignoring it"))
          return .unknown

/-- The port of its own setting; one that cannot be read counts as unset. -/
def configuredPort (st : Stack) : Noted (Option Nat) := do
  match ← st.resolve .agentPort with
  | none => return none
  | some hit =>
      match IntegerRange.word16.read hit.value with
      | .ok port => return some port.toNat
      | .error e =>
          report (.invalidValue Setting.agentPort.key hit.value e.message)
          return none

def socketPath (raw : String) : String :=
  if "unix://".toList.isPrefixOf raw.toList then String.ofList (raw.toList.drop 7) else raw

/-- Looks up what a URL leaves open. A socket needs neither host nor port. -/
def complete (st : Stack) (e : Endpoint) : Noted Endpoint := do
  if e.socket.isSome then return e
  let host ← if e.host.isSome then pure e.host else st.text? .agentHost
  let port ← if e.port.isSome then pure e.port else configuredPort st
  let socket ← st.text? .agentSocket
  return ⟨host, port, socket.map socketPath⟩

/-- Seconds up to the greatest number of 32 bits. -/
def resolveTimeout (st : Stack) : Noted Nat := do
  let default : Int := default.timeoutSeconds
  let timeout ← st.scalar .int64 .agentTimeout default
  let timeout ← Scalar.int64.within Setting.agentTimeout.key 0 IntegerRange.word32.greatest
    default timeout
  return if IntegerRange.word32.contains timeout then timeout.toNat
    else Agent.default.timeoutSeconds

def resolveWith (readUrl : String → Except UrlError Url) (st : Stack) : Noted Agent := do
  let raw ← st.text? .agentUrl
  let written ← writtenEndpoint readUrl raw
  let endpoint ← complete st written
  let pipe ← st.text? .agentPipe
  let host := endpoint.host.getD default.host
  let port := endpoint.port.getD default.port
  let timeoutSeconds ← resolveTimeout st
  return {
    host
    port
    url := if written.isComplete then raw.getD (endpointUrl host port) else endpointUrl host port
    socket := endpoint.socket
    pipe
    timeoutSeconds
    usesDefault :=
      endpoint.host.isNone && endpoint.port.isNone && endpoint.socket.isNone && pipe.isNone
  }

def resolve (readName : Url.Host.NameReader) (st : Stack) : Noted Agent :=
  resolveWith (Url.readWith readName) st

end Agent

end TracerSettings
