namespace TracerSettings

structure IntegerRange where
  least : Int
  greatest : Int
  deriving DecidableEq, Repr

namespace IntegerRange

def int32 : IntegerRange := ⟨-2147483648, 2147483647⟩

def int64 : IntegerRange := ⟨-9223372036854775808, 9223372036854775807⟩

def word16 : IntegerRange := ⟨0, 65535⟩

def word32 : IntegerRange := ⟨0, 4294967295⟩

def contains (range : IntegerRange) (n : Int) : Bool := range.least ≤ n && n ≤ range.greatest

end IntegerRange

inductive IntegerError where
  | empty
  | invalidDigit
  | tooLarge
  | tooSmall
  deriving DecidableEq, Repr

def IntegerError.message : IntegerError → String
  | .empty => "cannot parse integer from empty string"
  | .invalidDigit => "invalid digit found in string"
  | .tooLarge => "number too large to fit in target type"
  | .tooSmall => "number too small to fit in target type"

def digitValue (c : Char) : Nat := c.toNat - '0'.toNat

/-- Reads digits onto `value` and stops at the first one that passes `bound`. -/
def readMagnitude (bound : Nat) (overflow : IntegerError) :
    List Char → Nat → Except IntegerError Nat
  | [], value => .ok value
  | c :: cs, value =>
      if !c.isDigit then .error .invalidDigit
      else if bound < 10 * value + digitValue c then .error overflow
      else readMagnitude bound overflow cs (10 * value + digitValue c)

namespace IntegerRange

/-- A sign may stand in front of the digits, a minus only where the range has negative numbers. -/
def read (range : IntegerRange) (s : String) : Except IntegerError Int :=
  match s.toList with
  | [] => .error .empty
  | ['+'] => .error .invalidDigit
  | ['-'] => .error .invalidDigit
  | '+' :: cs => (readMagnitude range.greatest.toNat .tooLarge cs 0).map Int.ofNat
  | '-' :: cs =>
      if range.least < 0 then
        (readMagnitude (-range.least).toNat .tooSmall cs 0).map fun n => -(Int.ofNat n)
      else .error .invalidDigit
  | cs => (readMagnitude range.greatest.toNat .tooLarge cs 0).map Int.ofNat

end IntegerRange

theorem readMagnitude_le {bound : Nat} {overflow : IntegerError} {cs : List Char}
    {value n : Nat} (hv : value ≤ bound) (h : readMagnitude bound overflow cs value = .ok n) :
    n ≤ bound := by
  induction cs generalizing value with
  | nil => cases h; exact hv
  | cons c cs ih =>
      rw [readMagnitude] at h
      split at h
      · cases h
      · split at h
        · cases h
        · exact ih (by omega) h

end TracerSettings
