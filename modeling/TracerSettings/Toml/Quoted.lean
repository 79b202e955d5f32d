import TracerSettings.Text.Character
import TracerSettings.Toml.Datetime

namespace TracerSettings.Toml.Quoted

/-- Readers that return what is left. Those of strings start behind the opening quotes. -/
abbrev Read (α : Type) := List Char → Option (α × List Char)

def isSpace (c : Char) : Bool := c == ' ' || c == '\t'

/-- Tabs and everything from the blank on, except the control character after the tilde. -/
def isPlain (c : Char) : Bool := c == '\t' || (0x20 ≤ c.toNat && c.toNat != 0x7F)

def codePoint (n : Nat) : Read Char := fun cs =>
  let ds := cs.take n
  let code := Text.ofHex ds
  if ds.length = n && ds.all Text.isHex &&
      (code < 0xD800 || (0xDFFF < code && code < 0x110000)) then
    some (Char.ofNat code, cs.drop n)
  else none

def escape : Read Char
  | 'b' :: rest => some (Char.ofNat 8, rest)
  | 't' :: rest => some ('\t', rest)
  | 'n' :: rest => some ('\n', rest)
  | 'f' :: rest => some (Char.ofNat 12, rest)
  | 'r' :: rest => some ('\r', rest)
  | '"' :: rest => some ('"', rest)
  | '\\' :: rest => some ('\\', rest)
  | 'u' :: rest => codePoint 4 rest
  | 'U' :: rest => codePoint 8 rest
  | _ => none

def newline? : List Char → Option (List Char)
  | '\n' :: rest => some rest
  | '\r' :: '\n' :: rest => some rest
  | _ => none

/-- The characters read so far come in reverse order. Every step takes one of `fuel`, so the length
of the input is enough. -/
def basicFrom : Nat → List Char → Read String
  | 0, _, _ => none
  | fuel + 1, out, cs =>
      match cs with
      | '"' :: rest => some (String.ofList out.reverse, rest)
      | '\\' :: rest =>
          match escape rest with
          | some (c, rest) => basicFrom fuel (c :: out) rest
          | none => none
      | c :: rest => if isPlain c then basicFrom fuel (c :: out) rest else none
      | [] => none

def literalFrom : List Char → Read String
  | out, '\'' :: rest => some (String.ofList out.reverse, rest)
  | out, c :: rest => if isPlain c then literalFrom (c :: out) rest else none
  | _, [] => none

/-- Behind three closing quotes, up to two more belong to the string. -/
def closeBlock (quote : Char) (out : List Char) (cs : List Char) : String × List Char :=
  match cs with
  | a :: b :: rest =>
      if a = quote && b = quote then (String.ofList (quote :: quote :: out).reverse, rest)
      else if a = quote then (String.ofList (quote :: out).reverse, b :: rest)
      else (String.ofList out.reverse, cs)
  | [a] =>
      if a = quote then (String.ofList (quote :: out).reverse, [])
      else (String.ofList out.reverse, cs)
  | [] => (String.ofList out.reverse, [])

/-- White space behind a backslash at the end of a line, over any number of lines. -/
def skipLines : Nat → List Char → List Char
  | 0, cs => cs
  | fuel + 1, cs =>
      match newline? cs with
      | some rest => skipLines fuel rest
      | none =>
          match cs with
          | c :: rest => if isSpace c then skipLines fuel rest else cs
          | [] => []

def basicBlockFrom : Nat → List Char → Read String
  | 0, _, _ => none
  | fuel + 1, out, cs =>
      match cs with
      | '"' :: '"' :: '"' :: rest => some (closeBlock '"' out rest)
      | '\\' :: rest =>
          match newline? (rest.dropWhile isSpace) with
          | some next => basicBlockFrom fuel out (skipLines fuel next)
          | none =>
              match escape rest with
              | some (c, rest) => basicBlockFrom fuel (c :: out) rest
              | none => none
      | c :: rest =>
          match newline? cs with
          | some next => basicBlockFrom fuel ('\n' :: out) next
          | none => if isPlain c then basicBlockFrom fuel (c :: out) rest else none
      | [] => none

def literalBlockFrom : Nat → List Char → Read String
  | 0, _, _ => none
  | fuel + 1, out, cs =>
      match cs with
      | '\'' :: '\'' :: '\'' :: rest => some (closeBlock '\'' out rest)
      | c :: rest =>
          match newline? cs with
          | some next => literalBlockFrom fuel ('\n' :: out) next
          | none => if isPlain c then literalBlockFrom fuel (c :: out) rest else none
      | [] => none

def skipFirstBreak (cs : List Char) : List Char := (newline? cs).getD cs

def readLine (fuel : Nat) : Read String
  | '"' :: rest => basicFrom fuel [] rest
  | '\'' :: rest => literalFrom [] rest
  | _ => none

def read (fuel : Nat) : Read String
  | '"' :: '"' :: '"' :: rest => basicBlockFrom fuel [] (skipFirstBreak rest)
  | '\'' :: '\'' :: '\'' :: rest => literalBlockFrom fuel [] (skipFirstBreak rest)
  | cs => readLine fuel cs

end TracerSettings.Toml.Quoted
