import EntitySync.Text.Digits

/-!
# Sets of code points

Properties of characters are sets of code points. A set is written as words: `41-5A` is a range of
hexadecimal numbers, and `AA` a single code point.
-/

namespace EntitySync

/-- The code points from a first to a last one. -/
structure CodeRange where
  first : Nat
  last : Nat
deriving DecidableEq

/-- A set of code points. -/
structure CodeSet where
  ranges : List CodeRange
deriving DecidableEq

def CodeRange.contains (r : CodeRange) (n : Nat) : Bool := r.first ≤ n && n ≤ r.last

namespace CodeSet

def contains (s : CodeSet) (n : Nat) : Bool := s.ranges.any fun r => r.contains n

theorem contains_iff {s : CodeSet} {n : Nat} :
    s.contains n = true ↔ ∃ r ∈ s.ranges, r.first ≤ n ∧ n ≤ r.last := by
  simp [contains, CodeRange.contains]

/-! ### Tables -/

/-- The words between the blanks and line breaks of a text. -/
def words (text : String) : List (List Char) :=
  (text.toList.splitOnP fun c => c = ' ' || c = '\n').filter fun word => !word.isEmpty

/-- The number that hexadecimal digits write. -/
def hex (digits : List Char) : Nat := (Text.natural? 16 digits).getD 0

end CodeSet

def CodeRange.ofWord (word : List Char) : CodeRange :=
  match word.splitOn '-' with
  | [first, last] => ⟨CodeSet.hex first, CodeSet.hex last⟩
  | _ => ⟨CodeSet.hex word, CodeSet.hex word⟩

def CodeSet.ofText (text : String) : CodeSet := ⟨(words text).map .ofWord⟩

end EntitySync
