import TracerSettings.Url.Host
import TracerSettings.Url.Path

namespace TracerSettings

/-- The port is absent if none is written or if it is the scheme's own. -/
structure Url where
  scheme : String
  host : Option Url.Host
  port : Option Nat
  path : String
  deriving DecidableEq, Repr

namespace Url

def schemePort (scheme : String) : Option Nat :=
  match scheme with
  | "http" => some 80
  | "ws" => some 80
  | "https" => some 443
  | "wss" => some 443
  | "ftp" => some 21
  | _ => none

def effectivePort (u : Url) : Option Nat := u.port <|> schemePort u.scheme

/-- Schemes of the web have a host in any case, and a backslash is a slash to them. -/
def isWeb (scheme : String) : Bool := (schemePort scheme).isSome

def isSchemeCharacter (c : Char) : Bool := c.isAlphanum || "+-.".toList.contains c

def scheme? (cs : List Char) : Option (String × List Char) :=
  match cs.head?, Text.cut ':' cs with
  | some c, some (scheme, rest) =>
      if c.isAlpha && scheme.all isSchemeCharacter then
        some (String.ofList (scheme.map Char.toLower), rest)
      else none
  | _, _ => none

/-- Blanks and control characters at the ends do not count, nor do tabs and line breaks anywhere. -/
def stripped (cs : List Char) : List Char :=
  let isOuter (c : Char) : Bool := c.toNat ≤ 0x20
  let inner := ((cs.dropWhile isOuter).reverse.dropWhile isOuter).reverse
  inner.filter fun c => !"\t\n\r".toList.contains c

def endsAuthority (web : Bool) (c : Char) : Bool := Path.isSlash web c || Path.isQueryMark c

/-- Leaves out a user name and password, which stand before the last `@` of the authority, and
tells whether there were any. -/
def skipUser (web : Bool) (cs : List Char) : Except UrlError (Bool × List Char) :=
  let authority := cs.takeWhile (!endsAuthority web ·)
  let rest := cs.dropWhile (!endsAuthority web ·)
  match Text.cutLast '@' authority with
  | none => .ok (false, cs)
  | some (user, host) =>
      if user.isEmpty && host.isEmpty && !rest.isEmpty then .error .emptyHost
      else .ok (!user.isEmpty && user != [':'], host ++ rest)

def cutHost (web : Bool) : Bool → List Char → List Char × List Char
  | _, [] => ([], [])
  | inBrackets, c :: cs =>
      if endsAuthority web c || (c == ':' && !inBrackets) then ([], c :: cs)
      else
        let inBrackets := if c == '[' then true else if c == ']' then false else inBrackets
        let (host, rest) := cutHost web inBrackets cs
        (c :: host, rest)

def readPort (scheme : String) (cs : List Char) : Except UrlError (Option Nat × List Char) :=
  let digits := cs.takeWhile Char.isDigit
  let rest := cs.dropWhile Char.isDigit
  let port := digits.foldl (fun n c => 10 * n + digitValue c) 0
  if 65535 < port || rest.head?.any fun c => !endsAuthority true c then .error .port
  else if digits.isEmpty || schemePort scheme = some port then .ok (none, rest)
  else .ok (some port, rest)

/-- The path behind an authority. Where it is not empty it begins with a slash, written or not, and
on the web it is never empty. -/
def pathAfterAuthority (web : Bool) (cs : List Char) : List Char :=
  match cs with
  | [] => if web then ['/'] else []
  | c :: rest =>
      if Path.isSlash web c then Path.read web rest
      else if Path.isQueryMark c && !web then []
      else Path.read web cs

section

variable (readName : Host.NameReader)

def readAuthority (scheme : String) (cs : List Char) : Except UrlError Url := do
  let web := isWeb scheme
  let (hasUser, cs) ← skipUser web cs
  let (hostText, rest) := cutHost web false cs
  if hostText.isEmpty && (web || hasUser || rest.head? = some ':') then throw .emptyHost
  let host ← if web then Host.readDomain readName hostText else Host.readOpaque hostText
  let (port, rest) ←
    match rest with
    | ':' :: rest => readPort scheme rest
    | _ => pure (none, rest)
  return {
    scheme
    host := if hostText.isEmpty then none else some host
    port
    path := String.ofList (pathAfterAuthority web rest)
  }

/-- A path without an authority; without a slash in front it is not divided into segments. -/
def readPath (scheme : String) (cs : List Char) : Url :=
  let path :=
    match cs with
    | '/' :: rest => Path.read false rest
    | _ => percentEncode isControl (cs.takeWhile (!Path.isQueryMark ·))
  ⟨scheme, none, none, String.ofList path⟩

/-- The host of a file, unless it is this machine or the text is a drive. -/
def fileHost (cs : List Char) : Except UrlError (Option Host) := do
  if cs.isEmpty || Path.isDrive cs then return none
  let host ← Host.readDomain readName cs
  return if host = .name "localhost" then none else some host

def filePath (cs : List Char) : List Char :=
  match cs with
  | c :: rest => if Path.isSlash true c then Path.read true rest else Path.read true cs
  | [] => ['/']

def startsAtDrive (path : List Char) : Bool :=
  Path.isDrive ((path.drop 1).takeWhile (· != '/'))

def readFile (cs : List Char) : Except UrlError Url := do
  match cs with
  | a :: b :: rest =>
      if Path.isSlash true a && Path.isSlash true b then
        let hostText := rest.takeWhile (!endsAuthority true ·)
        let host ← fileHost readName hostText
        let path := filePath (if Path.isDrive hostText then rest else rest.drop hostText.length)
        return ⟨"file", if startsAtDrive path then none else host, none, String.ofList path⟩
      else return ⟨"file", none, none, String.ofList (filePath cs)⟩
  | _ => return ⟨"file", none, none, String.ofList (filePath cs)⟩

/-- Reads a URL, where `readName` reads the names of hosts on the web. -/
def readWith (s : String) : Except UrlError Url :=
  match scheme? (stripped s.toList) with
  | none => .error .noScheme
  | some (scheme, rest) =>
      if scheme = "file" then readFile readName rest
      else if isWeb scheme then readAuthority readName scheme (rest.dropWhile (Path.isSlash true))
      else
        match rest with
        | '/' :: '/' :: rest => readAuthority readName scheme rest
        | _ => .ok (readPath scheme rest)

end

def read (s : String) : Except UrlError Url := readWith Host.readName s

end Url

end TracerSettings
