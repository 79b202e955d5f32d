import TracerSettings.Noted
import TracerSettings.Number.Decimal
import TracerSettings.Number.Shortest
import TracerSettings.Setting
import TracerSettings.Text.Character

namespace TracerSettings

/-- A switch is `true` or `1`, `false` or `0`. -/
def readSwitch? (raw : String) : Option Bool :=
  let word := Text.trim raw
  if Text.sameLetters word "true" || word == "1" then some true
  else if Text.sameLetters word "false" || word == "0" then some false
  else none

def switchText (on : Bool) : String := if on then "true" else "false"

structure Scalar (α : Type) where
  read : String → Except String α
  text : α → String
  le : α → α → Bool

namespace Scalar

def integer (range : IntegerRange) : Scalar Int where
  read s := (range.read s).mapError IntegerError.message
  text n := toString n
  le a b := decide (a ≤ b)

def real (f : Format) : Scalar Binary where
  read s := (Binary.read f s).mapError FloatError.message
  text x := x.text .plain f
  le := Binary.le

def switch : Scalar Bool where
  read s :=
    match readSwitch? s with
    | some on => .ok on
    | none => .error "expected true, false, 1 or 0"
  text := switchText
  le a b := decide (a ≤ b)

def int32 : Scalar Int := integer .int32

def int64 : Scalar Int := integer .int64

def single : Scalar Binary := real .single

def double : Scalar Binary := real .double

variable {α : Type}

def between (kind : Scalar α) (low high value : α) : Bool :=
  kind.le low value && kind.le value high

/-- The value, or the default with a report in the place of one that is outside of its limits. -/
def within (kind : Scalar α) (setting : String) (low high default value : α) : Noted α := do
  if kind.between low high value then return value
  report (.outOfRange setting (kind.text value) (kind.text low ++ "-" ++ kind.text high)
    (kind.text default))
  return default

def positive (setting : String) (default value : Binary) : Noted Binary := do
  if value.isPositive then return value
  report (.outOfRange setting (single.text value) "greater than 0" (single.text default))
  return default

end Scalar

def telemetryLimits : Binary × Binary :=
  (Binary.round .single false 1 10, .ofNat 3600)

def initialFlushLimits : Int × Int := (10, 450)

def flushLimits : Int × Int := (20, 450)

end TracerSettings
