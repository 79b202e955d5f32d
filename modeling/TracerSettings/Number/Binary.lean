namespace TracerSettings

/-- Floating-point numbers of any format: the same value is the same term in all of them, so
widening changes nothing. -/
inductive Binary where
  | nan
  | infinite (negative : Bool)
  /-- The number `± mantissa · 2 ^ exponent`; the mantissa is odd, or zero with exponent zero. -/
  | finite (negative : Bool) (mantissa : Nat) (exponent : Int)
  deriving DecidableEq, Repr

/-- A format holds `precision` bits of significand. The last place of its least numbers is
`2 ^ minExponent`, and all its numbers are below `2 ^ maxExponent`. -/
structure Format where
  precision : Nat
  minExponent : Int
  maxExponent : Int
  deriving DecidableEq, Repr

namespace Format

def single : Format := ⟨24, -149, 128⟩

def double : Format := ⟨53, -1074, 1024⟩

end Format

namespace Binary

def halve : Nat → Nat → Int → Nat × Int
  | 0, m, e => (m, e)
  | k + 1, m, e => if m % 2 = 0 then halve k (m / 2) (e + 1) else (m, e)

def ofScaled (negative : Bool) (m : Nat) (e : Int) : Binary :=
  if m = 0 then .finite negative 0 0
  else
    let (m, e) := halve m.log2 m e
    .finite negative m e

def ofNat (n : Nat) : Binary := ofScaled false n 0

/-- The quotient of two naturals divided once more by `2 ^ e`, as numerator and denominator. -/
def scaleDown (e : Int) (num den : Nat) : Nat × Nat :=
  if 0 ≤ e then (num, den * Nat.pow 2 e.toNat) else (num * Nat.pow 2 (-e).toNat, den)

def roundHalfEven (num den : Nat) : Nat :=
  let q := num / den
  let r := num % den
  if 2 * r < den then q
  else if den < 2 * r then q + 1
  else q + q % 2

def floorLog2 (num den : Nat) : Int :=
  let k : Int := (num.log2 : Int) - den.log2
  let (n, d) := scaleDown k num den
  if d ≤ n then k else k - 1

/-- Rounds `num / den` to the nearest number of the format, ties to even. -/
def round (f : Format) (negative : Bool) (num den : Nat) : Binary :=
  if num = 0 then .finite negative 0 0
  else
    let e := max (floorLog2 num den - (f.precision - 1 : Nat)) f.minExponent
    let (n, d) := scaleDown e num den
    let q := roundHalfEven n d
    if q = 0 then .finite negative 0 0
    else if f.maxExponent ≤ (q.log2 : Int) + e then .infinite negative
    else ofScaled negative q e

def magnitudeLe (a : Nat) (i : Int) (b : Nat) (j : Int) : Bool :=
  let low := min i j
  a * Nat.pow 2 (i - low).toNat ≤ b * Nat.pow 2 (j - low).toNat

/-- The order of the numbers; nothing is in order with `nan`, and the two zeros are equal. -/
def le : Binary → Binary → Bool
  | .nan, _ => false
  | _, .nan => false
  | .infinite true, _ => true
  | _, .infinite false => true
  | .infinite false, _ => false
  | _, .infinite true => false
  | .finite false m e, .finite false n i => magnitudeLe m e n i
  | .finite true m e, .finite true n i => magnitudeLe n i m e
  | .finite true _ _, .finite false _ _ => true
  | .finite false m _, .finite true n _ => m == 0 && n == 0

def isPositive : Binary → Bool
  | .infinite negative => !negative
  | .finite negative m _ => !negative && m != 0
  | .nan => false

end Binary

end TracerSettings
