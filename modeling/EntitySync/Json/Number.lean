import EntitySync.Double.Shortest

/-!
# JSON numbers

A number is an integer that fits a signed or an unsigned 64-bit word, or a finite double. The two
kinds stay apart as values: `1` and `1.0` are different numbers, although they denote the same
quantity.
-/

namespace EntitySync

/-- A JSON number. -/
inductive Number where
  | integer (value : Int)
      (inRange : -9223372036854775808 ≤ value ∧ value ≤ 18446744073709551615 := by decide)
  | double (value : Double)
deriving DecidableEq

namespace Number

/-- The integer as a number, if it fits a 64-bit word. -/
def ofInt? (value : Int) : Option Number :=
  if h : -9223372036854775808 ≤ value ∧ value ≤ 18446744073709551615 then some (.integer value h)
  else none

/-- Equality of values: kinds differ, and the two zeros of the doubles are equal. -/
def equal : Number → Number → Bool
  | .integer a _, .integer b _ => a = b
  | .double a, .double b => a.equal b
  | _, _ => false

/-- Decimal text of an integer. -/
def integerText (value : Int) : List Char :=
  if value < 0 then '-' :: Nat.toDigits 10 value.natAbs else Nat.toDigits 10 value.natAbs

def text : Number → List Char
  | .integer value _ => integerText value
  | .double value => value.text

end Number

end EntitySync
