/-!
# Numbers in texts

Unsigned numbers to a base, as they stand in environment variables and configuration files.
-/

namespace EntitySync

namespace Text

/-- The value of a digit; letters of both cases stand for ten and more. -/
def digitValue? (base : Nat) (c : Char) : Option Nat :=
  let n := c.toNat
  let value :=
    if 0x30 ≤ n && n ≤ 0x39 then n - 0x30
    else if 0x41 ≤ n && n ≤ 0x5A then n - 0x37
    else if 0x61 ≤ n && n ≤ 0x7A then n - 0x57
    else base
  if value < base then some value else none

/-- The value of digits behind those read so far. -/
def digitsFrom? (base value : Nat) : List Char → Option Nat
  | [] => some value
  | c :: rest => (digitValue? base c).bind fun digit => digitsFrom? base (base * value + digit) rest

/-- The number that one or more digits write. -/
def natural? (base : Nat) : List Char → Option Nat
  | [] => none
  | cs => digitsFrom? base 0 cs

/-- A text without a plus sign in front. -/
def dropPlus : List Char → List Char
  | '+' :: rest => rest
  | cs => cs

/-- The number as a 16-bit word, if it fits. -/
def word16? (n : Nat) : Option UInt16 :=
  if n ≤ 65535 then some n.toUInt16 else none

end Text

end EntitySync
