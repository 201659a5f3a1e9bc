/-!
# Labels of host names in ASCII

A label with other characters is written with its ASCII characters first, followed by the others in
ascending order: each as a number that tells how many insertions lie between it and the one before.
Numbers have digits to the base 36, with thresholds that adapt to the sizes seen so far.
-/

namespace EntitySync

namespace Punycode

/-- A digit: letters stand for the numbers below 26. -/
def digit (n : Nat) : Char :=
  if n < 26 then Char.ofNat (0x61 + n) else Char.ofNat (0x16 + n)

/-- The least value of a last digit at a position, which counts in steps of 36. -/
def threshold (bias position : Nat) : Nat := max 1 (min 26 (position - bias))

theorem threshold_pos (bias position : Nat) : 1 ≤ threshold bias position := Nat.le_max_left ..

/-- The digits of a number, the least significant one first. -/
def digits (bias position n : Nat) : List Char :=
  let t := threshold bias position
  if n < t then [digit n]
  else digit (t + (n - t) % (36 - t)) :: digits bias (position + 36) ((n - t) / (36 - t))
termination_by n
decreasing_by
  have hpos := threshold_pos bias position
  have hdiv := Nat.div_le_self (n - threshold bias position) (36 - threshold bias position)
  omega

/-- The bias for a mean size of steps. -/
def biasFrom (skipped delta : Nat) : Nat :=
  if 455 < delta then biasFrom (skipped + 36) (delta / 35) else skipped + 36 * delta / (delta + 38)
termination_by delta

/-- The bias behind a step, of which the first is damped more. -/
def adapted (delta written : Nat) (isFirst : Bool) : Nat :=
  let delta := if isFirst then delta / 700 else delta / 2
  biasFrom 0 (delta + delta / written)

/-- What has been written of a label. -/
structure Progress where
  output : List Char
  delta : Nat := 0
  bias : Nat := 72
  /-- Characters written. -/
  written : Nat

/-- Pass a character of the label while the characters with a code point are inserted. -/
def pass (basic code : Nat) (p : Progress) (c : Char) : Progress :=
  if c.toNat < code then { p with delta := p.delta + 1 }
  else if c.toNat = code then
    { output := p.output ++ digits p.bias 36 p.delta
      delta := 0
      bias := adapted p.delta (p.written + 1) (p.written = basic)
      written := p.written + 1 }
  else p

/-- Insert the characters with the given code points, which ascend from `least` on. -/
def insertCodes (label : List Char) (basic : Nat) (p : Progress) (least : Nat) :
    List Nat → Progress
  | [] => p
  | code :: codes =>
    let p := { p with delta := p.delta + (code - least) * (p.written + 1) }
    let p := label.foldl (pass basic code) p
    insertCodes label basic { p with delta := p.delta + 1 } (code + 1) codes

/-- The code points of a list in ascending order, each once. -/
def ascending (codes : List Nat) : List Nat :=
  (codes.mergeSort (· ≤ ·)).eraseDups

/-- The label in ASCII characters. -/
def encode (label : List Char) : List Char :=
  let ascii := label.filter fun c => c.toNat < 128
  let others := (label.filter fun c => 128 ≤ c.toNat).map Char.toNat
  let start := if ascii.isEmpty then [] else ascii ++ ['-']
  (insertCodes label ascii.length { output := start, written := ascii.length } 128
    (ascending others)).output

/-! ### Reading -/

/-- The number that a digit stands for. -/
def digitValue? (c : Char) : Option Nat :=
  let n := c.toNat
  if 0x61 ≤ n && n ≤ 0x7A then some (n - 0x61)
  else if 0x30 ≤ n && n ≤ 0x39 then some (n - 0x16)
  else none

/-- Numbers have to fit a word of 32 bits. -/
def numberLimit : Nat := 4294967296

/-- Read the digits of a number from a position on, where a digit counts with a weight. -/
def readNumber (bias position weight value : Nat) : List Char → Option (Nat × List Char)
  | [] => none
  | c :: rest => do
    let digit ← digitValue? c
    let value := value + digit * weight
    let t := threshold bias position
    if numberLimit ≤ value then none
    else if digit < t then some (value, rest)
    else if numberLimit ≤ weight * (36 - t) then none
    else readNumber bias (position + 36) (weight * (36 - t)) value rest

theorem length_lt_of_readNumber {bias position weight value n : Nat} {cs rest : List Char}
    (h : readNumber bias position weight value cs = some (n, rest)) :
    rest.length < cs.length := by
  induction cs generalizing position weight value with
  | nil => simp [readNumber] at h
  | cons c cs ih =>
    simp only [readNumber, Option.bind_eq_bind, Option.bind_eq_some_iff] at h
    obtain ⟨digit, _, h⟩ := h
    split at h
    · cases h
    · split at h
      · cases h
        exact Nat.lt_succ_self _
      · split at h
        · cases h
        · exact Nat.lt_succ_of_lt (ih h)

/-- Insert the characters that the numbers tell of. The next is inserted at the earliest behind the
last one, with its code point or a greater one. -/
def insertNumbers (output : List Char) (index code bias : Nat) (cs : List Char) :
    Option (List Char) :=
  if cs.isEmpty then some output
  else
    match h : readNumber bias 36 1 index cs with
    | none => none
    | some (reached, rest) =>
      have := length_lt_of_readNumber h
      let length := output.length + 1
      let code := code + reached / length
      let place := reached % length
      if code.isValidChar then
        insertNumbers (output.take place ++ Char.ofNat code :: output.drop place) (place + 1) code
          (adapted (reached - index) length (index = 0)) rest
      else none
termination_by cs.length

/-- The label that ASCII characters write. -/
def decode? (cs : List Char) : Option (List Char) :=
  let digits := (cs.reverse.takeWhile (· ≠ '-')).reverse
  let ascii := cs.take (cs.length - digits.length - 1)
  if ascii.isEmpty && digits.length ≠ cs.length then none
  else insertNumbers ascii 0 128 72 digits

end Punycode

end EntitySync
