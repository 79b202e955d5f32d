import TracerSettings.Number.Binary
import TracerSettings.Number.Integer
import TracerSettings.Text.Character

namespace TracerSettings

inductive FloatError where
  | empty
  | invalid
  deriving DecidableEq, Repr

def FloatError.message : FloatError → String
  | .empty => "cannot parse float from empty string"
  | .invalid => "invalid float literal"

namespace Binary

def ofDigits (cs : List Char) : Nat := cs.foldl (fun n c => 10 * n + digitValue c) 0

/-- The number of the format nearest to `± m · 10 ^ x`. A magnitude that is out of the format's
reach by its count of digits alone is not computed. -/
def ofDecimal (f : Format) (negative : Bool) (m : Nat) (x : Int) : Binary :=
  if m = 0 then .finite negative 0 0
  else
    let top : Int := x + (Nat.toDigits 10 m).length
    if f.maxExponent < top then .infinite negative
    else if top < f.minExponent - 1 then .finite negative 0 0
    else if 0 ≤ x then round f negative (m * Nat.pow 10 x.toNat) 1
    else round f negative m (Nat.pow 10 (-x).toNat)

def exponent? : List Char → Option Int
  | [] => some 0
  | c :: cs =>
      if c != 'e' && c != 'E' then none
      else
        let (negative, ds) :=
          match cs with
          | '-' :: ds => (true, ds)
          | '+' :: ds => (false, ds)
          | ds => (false, ds)
        if ds.isEmpty || !ds.all Char.isDigit then none
        else if negative then some (-(ofDigits ds : Int))
        else some (ofDigits ds)

/-- A literal `whole.fraction` with an optional exponent, as a significand and a power of ten. One
of the two parts may be empty. -/
def literal? (cs : List Char) : Option (Nat × Int) :=
  let whole := cs.takeWhile Char.isDigit
  let (fraction, rest) :=
    match cs.dropWhile Char.isDigit with
    | '.' :: rest => (rest.takeWhile Char.isDigit, rest.dropWhile Char.isDigit)
    | rest => ([], rest)
  if whole.isEmpty && fraction.isEmpty then none
  else (exponent? rest).map fun x => (ofDigits (whole ++ fraction), x - fraction.length)

def special? (negative : Bool) (cs : List Char) : Option Binary :=
  match Text.lower (String.ofList cs) with
  | "nan" => some .nan
  | "inf" => some (.infinite negative)
  | "infinity" => some (.infinite negative)
  | _ => none

def read (f : Format) (s : String) : Except FloatError Binary :=
  match s.toList with
  | [] => .error .empty
  | c :: cs =>
      let negative := c == '-'
      let body := if c == '-' || c == '+' then cs else c :: cs
      match literal? body with
      | some (m, x) => .ok (ofDecimal f negative m x)
      | none =>
          match special? negative body with
          | some x => .ok x
          | none => .error .invalid

end Binary

end TracerSettings
