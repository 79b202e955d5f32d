import TracerSettings.Text.Character
import TracerSettings.Url.Address
import TracerSettings.Url.Label
import TracerSettings.Url.Path

namespace TracerSettings

inductive UrlError where
  | noScheme
  | emptyHost
  | port
  | addressV4
  | addressV6
  | hostCharacter
  | domainName
  deriving DecidableEq, Repr

def UrlError.message : UrlError → String
  | .noScheme => "relative URL without a base"
  | .emptyHost => "empty host"
  | .port => "invalid port number"
  | .addressV4 => "invalid IPv4 address"
  | .addressV6 => "invalid IPv6 address"
  | .hostCharacter => "invalid domain character"
  | .domainName => "invalid international domain name"

namespace Url

inductive Host where
  | name (text : String)
  | v4 (address : Nat)
  | v6 (pieces : List Nat)
  deriving DecidableEq, Repr

namespace Host

def text : Host → String
  | .name s => s
  | .v4 address => V4.text address
  | .v6 pieces => "[" ++ V6.text pieces ++ "]"

def bracketed? (cs : List Char) : Option (Except UrlError Host) :=
  match cs with
  | '[' :: rest =>
      if rest.getLast? = some ']' then
        match V6.read? rest.dropLast with
        | some pieces => some (.ok (.v6 pieces))
        | none => some (.error .addressV6)
      else some (.error .addressV6)
  | _ => none

/-- How the name of a host on the web is read. Names outside ASCII are the matter of a library that
maps them, so all that reads URLs takes a reader of names. -/
abbrev NameReader := List Char → Except UrlError Host

/-- The characters that no domain name in ASCII holds. -/
def isBarred (c : Char) : Bool :=
  c.toNat ≤ 0x20 || 0x7F ≤ c.toNat || "%#/:<>?@[\\]^|".toList.contains c

/-- Reads the names in ASCII, and refuses all others. A name whose last label is a number is an
address. -/
def readName : NameReader := fun cs =>
  let decoded := percentDecode cs
  if decoded.any isBarred then .error .domainName
  else
    let domain := decoded.map Char.toLower
    if !Label.areSound (Text.pieces (· == '.') domain) then .error .domainName
    else if domain.isEmpty then .error .emptyHost
    else if V4.endsInNumber domain then
      match V4.read? domain with
      | some address => .ok (.v4 address)
      | none => .error .addressV4
    else .ok (.name (String.ofList domain))

def readDomain (readName : NameReader) (cs : List Char) : Except UrlError Host :=
  match bracketed? cs with
  | some r => r
  | none => readName cs

def isDelimiter (c : Char) : Bool :=
  c.toNat == 0 || "\t\n\r #/:<>?@[\\]^|".toList.contains c

def readOpaque (cs : List Char) : Except UrlError Host :=
  match bracketed? cs with
  | some r => r
  | none =>
      if cs.any isDelimiter then .error .hostCharacter
      else .ok (.name (String.ofList (percentEncode isControl cs)))

end Host

end Url

end TracerSettings
