import TracerSettings.Number.Binary

namespace TracerSettings.Binary

structure Decimal where
  digits : Nat
  exponent : Int
  deriving DecidableEq, Repr

def decimalLe (a : Nat) (x : Int) (num den : Nat) : Bool :=
  if 0 ≤ x then a * Nat.pow 10 x.toNat * den ≤ num else a * den ≤ num * Nat.pow 10 (-x).toNat

def leDecimal (num den : Nat) (a : Nat) (x : Int) : Bool :=
  if 0 ≤ x then num ≤ a * Nat.pow 10 x.toNat * den else num * Nat.pow 10 (-x).toNat ≤ a * den

def floorUnits (num den : Nat) (x : Int) : Nat :=
  if 0 ≤ x then num / (den * Nat.pow 10 x.toNat) else num * Nat.pow 10 (-x).toNat / den

/-- The reals that round to one number, as numerators over a common denominator. -/
structure Neighbourhood where
  low : Nat
  value : Nat
  high : Nat
  den : Nat
  closed : Bool

/-- The reals that round to `m · 2 ^ e`: half a place to each side, a quarter below a power of two.
The ends belong to it if the significand is even. -/
def neighbourhood (f : Format) (m : Nat) (e : Int) : Neighbourhood :=
  let q := max ((m.log2 : Int) + e - (f.precision - 1 : Nat)) f.minExponent
  let significand := m * Nat.pow 2 (e - q).toNat
  let down := if significand = Nat.pow 2 (f.precision - 1) then 1 else 2
  let factor := if 2 ≤ q then Nat.pow 2 (q - 2).toNat else 1
  { low := (4 * significand - down) * factor
    value := 4 * significand * factor
    high := (4 * significand + 2) * factor
    den := if 2 ≤ q then 1 else Nat.pow 2 (2 - q).toNat
    closed := significand % 2 == 0 }

def Neighbourhood.contains (n : Neighbourhood) (a : Nat) (x : Int) : Bool :=
  if n.closed then leDecimal n.low n.den a x && decimalLe a x n.high n.den
  else !decimalLe a x n.low n.den && !leDecimal n.high n.den a x

def Neighbourhood.floorLog10 (n : Neighbourhood) : Int :=
  let binary : Int := (n.value.log2 : Int) - n.den.log2
  let guess := Int.fdiv (binary * 30103) 100000 - 2
  let fits (k : Nat) : Bool := decimalLe 1 (guess + k) n.value n.den
  guess + ([4, 3, 2, 1].find? fits).getD 0

inductive Tie where
  | up
  | toEven
  deriving DecidableEq, Repr

def Tie.choosesBelow (tie : Tie) (below : Nat) : Bool :=
  match tie with
  | .up => false
  | .toEven => below % 2 == 0

/-- The neighbour of the value on the grid of `10 ^ x` that lies in the neighbourhood, the nearer
one of two. -/
def Neighbourhood.onGrid (n : Neighbourhood) (tie : Tie) (x : Int) : Option Decimal :=
  let below := floorUnits n.value n.den x
  match n.contains below x, n.contains (below + 1) x with
  | true, true =>
      let isInLowerHalf := leDecimal (2 * n.value) n.den (2 * below + 1) x
      let isInUpperHalf := decimalLe (2 * below + 1) x (2 * n.value) n.den
      if isInLowerHalf && (!isInUpperHalf || tie.choosesBelow below) then some ⟨below, x⟩
      else some ⟨below + 1, x⟩
  | true, false => some ⟨below, x⟩
  | false, true => some ⟨below + 1, x⟩
  | false, false => none

def trimZeros : Nat → Decimal → Decimal
  | 0, d => d
  | k + 1, d => if d.digits % 10 = 0 then trimZeros k ⟨d.digits / 10, d.exponent + 1⟩ else d

/-- The first grid that meets the neighbourhood decides; seventeen digits always do. -/
def shortest (tie : Tie) (f : Format) (m : Nat) (e : Int) : Decimal :=
  let n := neighbourhood f m e
  let top := n.floorLog10
  let found := (List.range 18).findSome? fun (k : Nat) => n.onGrid tie (top - k)
  trimZeros 20 (found.getD ⟨m, e⟩)

def digitText (n : Nat) : List Char := Nat.toDigits 10 n

def Decimal.positional (d : Decimal) : List Char :=
  let ds := digitText d.digits
  if 0 ≤ d.exponent then ds ++ List.replicate d.exponent.toNat '0'
  else
    let places := (-d.exponent).toNat
    if places < ds.length then
      ds.take (ds.length - places) ++ '.' :: ds.drop (ds.length - places)
    else '0' :: '.' :: List.replicate (places - ds.length) '0' ++ ds

def Decimal.scientific (d : Decimal) : List Char :=
  let ds := digitText d.digits
  let x := d.exponent + (ds.length - 1 : Nat)
  let mantissa :=
    match ds with
    | [] => []
    | [c] => [c]
    | c :: rest => c :: '.' :: rest
  mantissa ++ 'e' :: (if x < 0 then '-' else '+') :: digitText x.natAbs

/-- What a notation decides besides the fewest digits: the choice in a tie, the ending of a whole
number, the decimal exponents that are written positionally, and the words for the other values. -/
structure Layout where
  tie : Tie
  wholeEnding : String
  positional : Int → Bool
  nan : String
  infinity : String

def Layout.plain : Layout := ⟨.up, "", fun _ => true, "NaN", "inf"⟩

def Decimal.text (layout : Layout) (d : Decimal) : String :=
  if layout.positional (d.exponent + ((digitText d.digits).length - 1 : Nat)) then
    String.ofList d.positional ++ (if 0 ≤ d.exponent then layout.wholeEnding else "")
  else String.ofList d.scientific

def text (layout : Layout) (f : Format) : Binary → String
  | .nan => layout.nan
  | .infinite negative => (if negative then "-" else "") ++ layout.infinity
  | .finite negative m e =>
      (if negative then "-" else "") ++
        (if m = 0 then "0" ++ layout.wholeEnding else (shortest layout.tie f m e).text layout)

end TracerSettings.Binary
