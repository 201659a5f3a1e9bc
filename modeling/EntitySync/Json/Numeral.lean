import EntitySync.Json.Number
import EntitySync.Json.Reader

/-!
# Number literals

A number literal is read into its digits first. Its value follows from them: an integer if it has
neither fraction nor exponent and fits a word, a double otherwise.

The double is not the nearest to the literal. Digits are gathered in a 64-bit significand, those
that do not fit any more are dropped, and the significand is scaled by a power of ten.
-/

namespace EntitySync

/-- The parts of a number literal, digits as numbers below ten. -/
structure Numeral where
  negative : Bool
  whole : List Nat
  fraction : Option (List Nat)
  /-- Digits of the exponent, and whether it is negative. -/
  exponent : Option (Bool × List Nat)
deriving DecidableEq

namespace Numeral

/-! ### Value -/

/-- Append digits to a number while it stays within a limit; the digits left over come second. -/
def gather (limit : Nat) : Nat → List Nat → Nat × List Nat
  | n, [] => (n, [])
  | n, d :: ds => if limit < 10 * n + d then (n, d :: ds) else gather limit (10 * n + d) ds

def greatestSignificand : Nat := 18446744073709551615

/-- The number that digits write. -/
def valueOfDigits (digits : List Nat) : Nat :=
  digits.foldl (fun n d => 10 * n + d) 0

/-- The 64-bit significand and the power of ten that belongs to it. -/
def scaled (n : Numeral) : Nat × Int :=
  let (s, dropped) := gather greatestSignificand 0 n.whole
  let fraction := n.fraction.getD []
  let (s, unused) := gather greatestSignificand s fraction
  let written : Int :=
    match n.exponent with
    | none => 0
    | some (negative, digits) =>
      if negative then -(valueOfDigits digits : Int) else valueOfDigits digits
  (s, (dropped.length : Int) - (fraction.length - unused.length : Nat) + written)

def double? (n : Numeral) : Option Number :=
  (Double.ofDecimal n.negative n.scaled.1 n.scaled.2).map .double

/-- The integer that a literal without fraction and exponent denotes; a negative zero is none. -/
def integer? (n : Numeral) : Option Number :=
  let magnitude := valueOfDigits n.whole
  if n.fraction.isSome || n.exponent.isSome || (n.negative && magnitude = 0) then none
  else Number.ofInt? (if n.negative then -(magnitude : Int) else magnitude)

/-- The value of a literal; none if it is beyond the largest double. -/
def number? (n : Numeral) : Option Number :=
  n.integer?.or n.double?

def greatestExponent : Nat := 2147483647

/--
How many bytes before the end of the literal an exponent beyond 31 bits is noticed.

The exponent is refused at the digit that takes it out of range, and not at its end.
-/
def digitsBehindFault (n : Numeral) : Nat :=
  match n.exponent with
  | none => 0
  | some (_, digits) => (gather greatestExponent 0 digits).2.length - 1

/-! ### Reading -/

def isDigit (b : UInt8) : Bool :=
  0x30 ≤ b && b ≤ 0x39

/-- The digits in front, as numbers below ten. -/
def digits (s : List UInt8) : List Nat :=
  (s.takeWhile isDigit).map fun b => b.toNat - 0x30

/-- Digits before the point: at least one, and more than one only without a leading zero. -/
def readWhole (s : List UInt8) : Except Fault (List Nat × List UInt8) :=
  match s with
  | [] => .error ⟨.eofInValue, 0⟩
  | b :: r =>
    if isDigit b then
      if b = Utf8.byte '0' && (digits r).length ≠ 0 then .error (.atNext .invalidNumber r)
      else .ok (digits (b :: r), r.dropWhile isDigit)
    else .error (.before .invalidNumber r)

/-- Digits after the point, if there is one. -/
def readFraction (s : List UInt8) : Except Fault (Option (List Nat) × List UInt8) :=
  match s with
  | [] => .ok (none, [])
  | b :: r =>
    if b = Utf8.byte '.' then
      match digits r, r with
      | [], [] => .error ⟨.eofInValue, 0⟩
      | [], r => .error (.atNext .invalidNumber r)
      | ds, r => .ok (some ds, r.dropWhile isDigit)
    else .ok (none, b :: r)

/-- The sign of an exponent, if it is written. -/
def readExponentSign (s : List UInt8) : Bool × List UInt8 :=
  match s with
  | [] => (false, [])
  | b :: r =>
    if b = Utf8.byte '-' then (true, r)
    else if b = Utf8.byte '+' then (false, r)
    else (false, b :: r)

/-- Digits of the exponent, if there is one. -/
def readExponent (s : List UInt8) : Except Fault (Option (Bool × List Nat) × List UInt8) :=
  match s with
  | [] => .ok (none, [])
  | b :: r =>
    if b = Utf8.byte 'e' || b = Utf8.byte 'E' then
      match readExponentSign r with
      | (_, []) => .error ⟨.eofInValue, 0⟩
      | (negative, d :: t) =>
        if isDigit d then .ok (some (negative, digits (d :: t)), t.dropWhile isDigit)
        else .error (.before .invalidNumber t)
    else .ok (none, b :: r)

/-- The literal after its sign. -/
def readUnsigned (negative : Bool) (s : List UInt8) : Except Fault (Number × List UInt8) :=
  match readWhole s with
  | .error fault => .error fault
  | .ok (whole, s) =>
    match readFraction s with
    | .error fault => .error fault
    | .ok (fraction, s) =>
      match readExponent s with
      | .error fault => .error fault
      | .ok (exponent, s) =>
        let n : Numeral := ⟨negative, whole, fraction, exponent⟩
        match n.number? with
        | some number => .ok (number, s)
        | none => .error ⟨.numberOutOfRange, s.length + n.digitsBehindFault⟩

/-- A number literal; its first byte is a sign or a digit. -/
def read (s : List UInt8) : Except Fault (Number × List UInt8) :=
  match s with
  | [] => readUnsigned false []
  | b :: r => if b = Utf8.byte '-' then readUnsigned true r else readUnsigned false (b :: r)

/-! ### Progress -/

theorem length_lt_of_readWhole {s r : List UInt8} {ds : List Nat}
    (h : readWhole s = .ok (ds, r)) : r.length < s.length := by
  cases s with
  | nil => simp [readWhole] at h
  | cons b t =>
    have hle := Reader.length_dropWhile_le isDigit t
    simp only [readWhole] at h
    split at h
    · split at h
      · simp at h
      · simp only [Except.ok.injEq, Prod.mk.injEq] at h
        simp [← h.2]
        omega
    · simp at h

theorem length_le_of_readFraction {s r : List UInt8} {ds : Option (List Nat)}
    (h : readFraction s = .ok (ds, r)) : r.length ≤ s.length := by
  cases s with
  | nil => simp_all [readFraction]
  | cons b t =>
    have hle := Reader.length_dropWhile_le isDigit t
    simp only [readFraction] at h
    split at h
    · split at h
      · simp at h
      · simp at h
      · simp only [Except.ok.injEq, Prod.mk.injEq] at h
        simp [← h.2]
        omega
    · simp only [Except.ok.injEq, Prod.mk.injEq] at h
      simp [← h.2]

theorem length_readExponentSign_le (s : List UInt8) :
    (readExponentSign s).2.length ≤ s.length := by
  cases s with
  | nil => simp [readExponentSign]
  | cons b t => grind [readExponentSign]

theorem length_le_of_readExponent {s r : List UInt8} {e : Option (Bool × List Nat)}
    (h : readExponent s = .ok (e, r)) : r.length ≤ s.length := by
  cases s with
  | nil => simp_all [readExponent]
  | cons b t =>
    simp only [readExponent] at h
    split at h
    · split at h
      · simp at h
      next negative d u hsign =>
        have h₁ := Reader.length_dropWhile_le isDigit u
        have h₂ := length_readExponentSign_le t
        rw [hsign] at h₂
        split at h
        · simp only [Except.ok.injEq, Prod.mk.injEq] at h
          simp [← h.2]
          simp at h₂
          omega
        · simp at h
    · simp only [Except.ok.injEq, Prod.mk.injEq] at h
      simp [← h.2]

theorem length_lt_of_readUnsigned {negative : Bool} {s r : List UInt8} {n : Number}
    (h : readUnsigned negative s = .ok (n, r)) : r.length < s.length := by
  unfold readUnsigned at h
  split at h
  · simp at h
  next whole s₁ hwhole =>
    have h₁ := length_lt_of_readWhole hwhole
    split at h
    · simp at h
    next fraction s₂ hfraction =>
      have h₂ := length_le_of_readFraction hfraction
      split at h
      · simp at h
      next exponent s₃ hexponent =>
        have h₃ := length_le_of_readExponent hexponent
        simp only at h
        split at h
        · simp only [Except.ok.injEq, Prod.mk.injEq] at h
          rw [← h.2]
          omega
        · simp at h

/-- Reader of number literals. -/
def reader : Reader Number where
  run := read
  consumes := by
    intro s n r h
    cases s with
    | nil => exact @length_lt_of_readUnsigned false _ _ _ h
    | cons b t =>
      simp only [read] at h
      split at h
      · exact Nat.lt_succ_of_lt (length_lt_of_readUnsigned h)
      · exact length_lt_of_readUnsigned h

end Numeral

end EntitySync
