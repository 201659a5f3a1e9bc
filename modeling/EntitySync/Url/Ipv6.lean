import EntitySync.Text.Digits

/-!
# Addresses of eight groups

An IPv6 address has eight groups of sixteen bits, written in hexadecimal between colons. One run of
zero groups may be left out between two colons, and the last two groups may stand as four decimal
numbers.
-/

namespace EntitySync

namespace Ipv6

/-! ### Reading -/

/-- A group: one to four hexadecimal digits. -/
def group? (digits : List Char) : Option Nat :=
  if digits.length ≤ 4 then Text.natural? 16 digits else none

/-- A byte in decimal, without needless zeros. -/
def byte? : List Char → Option Nat
  | ['0'] => some 0
  | '0' :: _ => none
  | digits => do
    let value ← Text.natural? 10 digits
    if value ≤ 255 then some value else none

/-- Two groups from four bytes. -/
def groupsOfBytes? (text : List Char) : Option (List Nat) := do
  match ← (text.splitOn '.').mapM byte? with
  | [a, b, c, d] => some [256 * a + b, 256 * c + d]
  | _ => none

/-- Groups, the last two of them in decimal if the last part has a dot. -/
def groupsOfParts? : List (List Char) → Option (List Nat)
  | [] => some []
  | [last] => if last.contains '.' then groupsOfBytes? last else (group? last).map ([·])
  | part :: parts => do return (← group? part) :: (← groupsOfParts? parts)

/-- The groups on one side of the run that is left out. -/
def side? (text : List Char) : Option (List Nat) :=
  if text.isEmpty then some [] else groupsOfParts? (text.splitOn ':')

/-- The texts in front of the first double colon and behind it. -/
def splitRun : List Char → List Char × Option (List Char)
  | [] => ([], none)
  | ':' :: ':' :: rest => ([], some rest)
  | c :: rest => ((c :: (splitRun rest).1), (splitRun rest).2)

/-- The eight groups of an address. -/
def groups? (text : List Char) : Option (List Nat) :=
  match splitRun text with
  | (all, none) => do
    let groups ← side? all
    if groups.length = 8 then some groups else none
  | (front, some behind) => do
    let first ← side? front
    let last ← side? behind
    let missing := 8 - (first.length + last.length)
    if missing ≠ 0 && !front.contains '.' then some (first ++ List.replicate missing 0 ++ last)
    else none

/-! ### Writing -/

/-- The position and the length of the longest run of zeros, of several the first. -/
def longestRun (groups : List Nat) : Nat × Nat :=
  (List.range groups.length).foldl
    (fun best i =>
      let length := ((groups.drop i).takeWhile (· = 0)).length
      if best.2 < length then (i, length) else best)
    (0, 0)

def join (groups : List Nat) : List Char :=
  [':'].intercalate (groups.map (Nat.toDigits 16))

/-- An address with its longest run of two or more zeros left out. -/
def text (groups : List Nat) : List Char :=
  let (start, length) := longestRun groups
  if length < 2 then join groups
  else join (groups.take start) ++ [':', ':'] ++ join (groups.drop (start + length))

end Ipv6

end EntitySync
