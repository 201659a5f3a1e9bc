/-!
# Finite doubles

A finite binary64 number is a sign and a magnitude. The magnitude is kept as its bit pattern, which
orders magnitudes as numbers; the value is an integral significand times a power of two.

Rounding is done on exact ratios of natural numbers, to the nearest double and to the even
significand on a tie.
-/

namespace EntitySync

/-- Bit pattern of infinity: the first magnitude that is not finite. -/
def Double.limit : Nat := 0x7FF0000000000000

/-- Weight of the hidden bit: the significand of a normal number is at least this. -/
def Double.hiddenBit : Nat := 0x10000000000000

/-- Weight of the sign in a bit pattern. -/
def Double.signBit : Nat := 0x8000000000000000

/-- A finite binary64 number. -/
structure Double where
  negative : Bool
  /-- Exponent field and fraction field, read as one number. -/
  magnitude : Nat
  finite : magnitude < Double.limit := by decide
deriving DecidableEq

namespace Double

instance : Inhabited Double := ⟨{ negative := false, magnitude := 0 }⟩

/-! ### Value -/

/-- The integral significand of a magnitude; the hidden bit is added unless it is subnormal. -/
def significandOf (magnitude : Nat) : Nat :=
  if magnitude / hiddenBit = 0 then magnitude else magnitude % hiddenBit + hiddenBit

/-- The power of two that goes with `significandOf`. -/
def exponentOf (magnitude : Nat) : Int :=
  max (magnitude / hiddenBit : Nat) 1 - 1075

def significand (d : Double) : Nat := significandOf d.magnitude

def exponent (d : Double) : Int := exponentOf d.magnitude

/-- Bit pattern, the sign in the highest bit. -/
def bits (d : Double) : Nat :=
  if d.negative then signBit + d.magnitude else d.magnitude

def neg (d : Double) : Double := { d with negative := !d.negative }

/-- Equality of values: the two zeros are equal. -/
def equal (a b : Double) : Bool :=
  a.magnitude = b.magnitude && (a.negative = b.negative || a.magnitude = 0)

/-- The value if it is an integer. -/
def toInt? (d : Double) : Option Int :=
  let m := d.significand
  let whole? : Option Nat :=
    if 0 ≤ d.exponent then some (m * Nat.pow 2 d.exponent.toNat)
    else
      let unit := Nat.pow 2 (-d.exponent).toNat
      if m % unit = 0 then some (m / unit) else none
  whole?.map fun n => if d.negative then -(n : Int) else n

/-! ### Ratios -/

/-- A magnitude as numerator and denominator. -/
def ratioOf (magnitude : Nat) : Nat × Nat :=
  let m := significandOf magnitude
  let e := exponentOf magnitude
  if 0 ≤ e then (m * Nat.pow 2 e.toNat, 1) else (m, Nat.pow 2 (-e).toNat)

/-- The quotient rounded to the nearest integer, a half to the even neighbour. -/
def roundHalfEven (num den : Nat) : Nat :=
  let q := num / den
  let r := num % den
  if 2 * r < den ∨ (2 * r = den ∧ q % 2 = 0) then q else q + 1

/-- The greatest power of two that is at most a positive ratio. -/
def binaryExponent (num den : Nat) : Int :=
  let guess : Int := (num.log2 : Int) - den.log2
  let reached : Bool :=
    if 0 ≤ guess then den * Nat.pow 2 guess.toNat ≤ num
    else den ≤ num * Nat.pow 2 (-guess).toNat
  if reached then guess else guess - 1

/--
Magnitude of the double nearest to a ratio; none if that is beyond the largest double.

Significand and exponent field are added, so that a significand rounded up to the next power of
two carries into the exponent.
-/
def nearestMagnitude (num den : Nat) : Option Nat :=
  if num = 0 then some 0
  else
    let e := max (binaryExponent num den - 52) (-1074)
    let m := if 0 ≤ e then roundHalfEven num (den * Nat.pow 2 e.toNat)
      else roundHalfEven (num * Nat.pow 2 (-e).toNat) den
    let magnitude := (e + 1074).toNat * hiddenBit + m
    if magnitude < limit then some magnitude else none

/-- The double of the given sign nearest to a ratio; none if it is beyond the largest double. -/
def nearest (negative : Bool) (num den : Nat) : Option Double :=
  match nearestMagnitude num den with
  | some magnitude => if h : magnitude < limit then some ⟨negative, magnitude, h⟩ else none
  | none => none

/-! ### Scaling by powers of ten -/

/-- The magnitude nearest to a power of ten. -/
def powerOfTen (n : Nat) : Nat :=
  (nearestMagnitude (Nat.pow 10 n) 1).getD 0

/-- Product of two magnitudes, rounded. -/
def mulMagnitude (a b : Nat) : Option Nat :=
  let (an, ad) := ratioOf a
  let (bn, bd) := ratioOf b
  nearestMagnitude (an * bn) (ad * bd)

/-- Quotient of two magnitudes, rounded. -/
def divMagnitude (a b : Nat) : Option Nat :=
  let (an, ad) := ratioOf a
  let (bn, bd) := ratioOf b
  nearestMagnitude (an * bd) (ad * bn)

/-- Divide by `10 ^ 308` up to the given number of times, rounding each time; zero stays zero. -/
def lowerMagnitude : Nat → Nat → Option Nat
  | 0, magnitude => some magnitude
  | steps + 1, magnitude =>
    if magnitude = 0 then some 0
    else (divMagnitude magnitude (powerOfTen 308)).bind (lowerMagnitude steps)

/--
A magnitude times a power of ten, by one rounded multiplication or division with a rounded power.

Exponents below -308 are first taken off in steps of 308. None if the result is beyond the largest
double.
-/
def scaleMagnitude (magnitude : Nat) (exponent : Int) : Option Nat :=
  if 308 < exponent then
    if magnitude = 0 then some 0 else none
  else if 0 ≤ exponent then
    mulMagnitude magnitude (powerOfTen exponent.toNat)
  else
    let steps := ((-exponent).toNat - 1) / 308
    (lowerMagnitude steps magnitude).bind fun lowered =>
      divMagnitude lowered (powerOfTen ((-exponent).toNat - 308 * steps))

/-- The significand rounded to a double, then scaled by a power of ten. -/
def ofDecimal (negative : Bool) (significand : Nat) (exponent : Int) : Option Double :=
  match (nearestMagnitude significand 1).bind (scaleMagnitude · exponent) with
  | some magnitude => if h : magnitude < limit then some ⟨negative, magnitude, h⟩ else none
  | none => none

end Double

end EntitySync
