import TracerSettings.Text.Character
import TracerSettings.Text.Cut

namespace TracerSettings.Url

def isControl (c : Char) : Bool := c.toNat < 0x20 || c.toNat == 0x7F

def isEncodedInPath (c : Char) : Bool :=
  isControl c || " \"#<>?`\x7b\x7d".toList.contains c

def encodedByte (b : UInt8) : List Char :=
  '%' :: (Text.hexDigits 2 b.toNat).map Char.toUpper

def encodedChar (isEncoded : Char → Bool) (c : Char) : List Char :=
  if isEncoded c || 0x80 ≤ c.toNat then (String.utf8EncodeChar c).flatMap encodedByte else [c]

def percentEncode (isEncoded : Char → Bool) (cs : List Char) : List Char :=
  cs.flatMap (encodedChar isEncoded)

def percentDecode : List Char → List Char
  | '%' :: a :: b :: rest =>
      if Text.isHex a && Text.isHex b then Char.ofNat (Text.ofHex [a, b]) :: percentDecode rest
      else '%' :: percentDecode (a :: b :: rest)
  | c :: rest => c :: percentDecode rest
  | [] => []

namespace Path

def dropDot : List Char → Option (List Char)
  | '.' :: rest => some rest
  | '%' :: '2' :: 'e' :: rest => some rest
  | '%' :: '2' :: 'E' :: rest => some rest
  | _ => none

def isSingleDot (segment : List Char) : Bool := dropDot segment == some []

def isDoubleDot (segment : List Char) : Bool :=
  match dropDot segment with
  | some rest => isSingleDot rest
  | none => false

def isDrive (segment : List Char) : Bool :=
  match segment with
  | [c, d] => c.isAlpha && (d == ':' || d == '|')
  | _ => false

/-- A drive, perhaps with a backslash behind it. Only where a backslash is no slash can a segment
go on after it. -/
def startsWithDrive (segment : List Char) : Bool :=
  isDrive (segment.take 2) && (segment.drop 2).head?.all (· == '\\')

/-- The segments in reverse order without their last one, unless that starts with a drive. -/
def up : List (List Char) → List (List Char)
  | [] => []
  | segment :: rest => if startsWithDrive segment then segment :: rest else rest

/-- Takes the segments in order; `done` holds those before, in reverse. A dot segment at the end
leaves an empty one. -/
def resolve (done : List (List Char)) : List (List Char) → List (List Char)
  | [] => done.reverse
  | [last] =>
      if isDoubleDot last then ([] :: up done).reverse
      else if isSingleDot last then ([] :: done).reverse
      else (last :: done).reverse
  | segment :: rest =>
      if isDoubleDot segment then resolve (up done) rest
      else if isSingleDot segment then resolve done rest
      else resolve (segment :: done) rest

def ofSegments (segments : List (List Char)) : List Char :=
  (resolve [] (segments.map (percentEncode isEncodedInPath))).flatMap ('/' :: ·)

def isSlash (webScheme : Bool) (c : Char) : Bool := c == '/' || (webScheme && c == '\\')

def isQueryMark (c : Char) : Bool := c == '?' || c == '#'

def read (webScheme : Bool) (cs : List Char) : List Char :=
  ofSegments (Text.pieces (isSlash webScheme) (cs.takeWhile (!isQueryMark ·)))

end Path

end TracerSettings.Url
