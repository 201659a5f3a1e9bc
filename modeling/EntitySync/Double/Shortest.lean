import EntitySync.Double

/-!
# Shortest decimal digits

The decimal text of a double has the fewest digits that read back as the same double; of those with
as few digits it is the nearest to the value, and the even one of two that are equally near.

The decimal grids are tried from one digit to seventeen. If a point of a grid reads back, one of the
two neighbours of the value on that grid does, so only these are tried.
-/

namespace EntitySync

namespace Double

/-- A positive value with the bounds of the numbers that round to it, over one denominator. -/
structure Bounds where
  low : Nat
  value : Nat
  high : Nat
  unit : Nat
  /-- Both bounds round to the value. -/
  closed : Bool

/-- Bounds of a positive magnitude: the midpoints to its two neighbours. -/
def bounds (magnitude : Nat) : Bounds :=
  let m := significandOf magnitude
  let e := exponentOf magnitude - 2
  let scale := if 0 ≤ e then Nat.pow 2 e.toNat else 1
  -- Below a power of two the neighbours are twice as close.
  let below := if magnitude % hiddenBit = 0 ∧ 1 < magnitude / hiddenBit then 1 else 2
  { low := (4 * m - below) * scale
    value := 4 * m * scale
    high := (4 * m + 2) * scale
    unit := if 0 ≤ e then 1 else Nat.pow 2 (-e).toNat
    closed := m % 2 = 0 }

/-- The ratio rounds to the bounded value. -/
def Bounds.contains (b : Bounds) (num den : Nat) : Bool :=
  if b.closed then b.low * den ≤ num * b.unit ∧ num * b.unit ≤ b.high * den
  else b.low * den < num * b.unit ∧ num * b.unit < b.high * den

/-- Number of decimal digits. -/
def digitCount (n : Nat) : Nat := (Nat.toDigits 10 n).length

/-- The greatest power of ten that is at most a positive ratio. -/
def decimalExponent (num den : Nat) : Int :=
  let guess : Int := (digitCount num : Int) - digitCount den
  let reached : Bool :=
    if 0 ≤ guess then den * Nat.pow 10 guess.toNat ≤ num
    else den ≤ num * Nat.pow 10 (-guess).toNat
  if reached then guess else guess - 1

/-- A decimal number: an integral significand and a power of ten. -/
structure Decimal where
  significand : Nat
  exponent : Int
deriving DecidableEq

/-- The point of the grid `10 ^ exponent` that reads back and is nearest to the value. -/
def Bounds.pointOnGrid? (b : Bounds) (exponent : Int) : Option Nat :=
  let up := if 0 ≤ exponent then Nat.pow 10 exponent.toNat else 1
  let down := if 0 ≤ exponent then 1 else Nat.pow 10 (-exponent).toNat
  -- The value in units of the grid is `num / den`.
  let num := b.value * down
  let den := b.unit * up
  let floor := num / den
  let low := b.contains (floor * up) down
  let high := b.contains ((floor + 1) * up) down
  match low, high with
  | true, true =>
    let twice := 2 * (num % den)
    if twice < den ∨ (twice = den ∧ floor % 2 = 0) then some floor else some (floor + 1)
  | true, false => some floor
  | false, true => some (floor + 1)
  | false, false => none

/-- The first grid, from coarse to fine, that has a point reading back. -/
def Bounds.search (b : Bounds) : Nat → Int → Decimal
  | 0, exponent => ⟨b.value * Nat.pow 10 (-exponent).toNat / b.unit, exponent⟩
  | steps + 1, exponent =>
    match b.pointOnGrid? exponent with
    | some point => ⟨point, exponent⟩
    | none => b.search steps (exponent - 1)

/-- The shortest decimal of a magnitude, nearest to it among the shortest. -/
def shortest (magnitude : Nat) : Decimal :=
  if magnitude = 0 then ⟨0, 0⟩
  else
    let b := bounds magnitude
    b.search 17 (decimalExponent b.value b.unit)

end Double

/-! ### Layout of a decimal text -/

/-- Which decimal exponents are written without an exponent part. -/
structure DecimalLayout where
  leastPositional : Int
  greatestPositional : Int

namespace DecimalLayout

/-- Digits of a number, most significant first, without the zeros at the end. -/
def significantDigits (n : Nat) : List Char :=
  ((Nat.toDigits 10 n).reverse.dropWhile (· = '0')).reverse

/-- A point and at least one digit after it. -/
def fraction (digits : List Char) : List Char :=
  '.' :: if digits.isEmpty then ['0'] else digits

/-- Write the digits `d.ddd` times a power of ten. A positional text always has a point. -/
def write (layout : DecimalLayout) (digits : List Char) (exponent : Int) : List Char :=
  if layout.leastPositional ≤ exponent ∧ exponent ≤ layout.greatestPositional then
    if 0 ≤ exponent then
      let whole := exponent.toNat + 1
      digits.take whole ++ List.replicate (whole - digits.length) '0' ++
        fraction (digits.drop whole)
    else
      '0' :: fraction (List.replicate ((-exponent).toNat - 1) '0' ++ digits)
  else
    let rest := digits.drop 1
    digits.take 1 ++ (if rest.isEmpty then [] else '.' :: rest) ++
      ['e', if 0 ≤ exponent then '+' else '-'] ++ Nat.toDigits 10 exponent.natAbs

end DecimalLayout

namespace Double

/-- Magnitudes from `1e-5` up to `1e16` are written positionally, the others with an exponent. -/
def layout : DecimalLayout := ⟨-5, 15⟩

/-- Shortest text of a double. -/
def text (d : Double) : List Char :=
  let body :=
    if d.magnitude = 0 then ['0', '.', '0']
    else
      let s := shortest d.magnitude
      layout.write (DecimalLayout.significantDigits s.significand)
        (s.exponent + (digitCount s.significand : Int) - 1)
  if d.negative then '-' :: body else body

end Double

end EntitySync
