import EntitySync.Text.Percent
import EntitySync.Url.Domain.Label
import EntitySync.Url.Ipv6

/-!
# Host names

The host of a URL is a name or an address. In normal form a name is spelled as it is looked up, and
an address of four bytes has four decimal numbers, however it is written. An address of eight groups
stands in brackets. Under schemes without hosts of the network, a name is any text.
-/

namespace EntitySync

namespace HostName

/-! ### Numeric addresses -/

/-- A part of an address: decimal, octal behind a zero, or hexadecimal behind `0x`. -/
def addressPart? : List Char → Option Nat
  | ['0', 'x'] => some 0
  | '0' :: 'x' :: digits => Text.natural? 16 digits
  | '0' :: digit :: digits => Text.natural? 8 (digit :: digits)
  | digits => Text.natural? 10 digits

/-- A label that makes the name an address. -/
def isNumeric (label : List Char) : Bool :=
  (!label.isEmpty && label.all Char.isDigit) || (addressPart? label).isSome

/-- The address whose parts from a position on are given; the last one fills the bytes left. -/
def addressFrom? (position : Nat) : List Nat → Option Nat
  | [] => none
  | [last] => if last < Nat.pow 256 (4 - position) then some last else none
  | part :: parts =>
    if part ≤ 255 then
      (addressFrom? (position + 1) parts).map (part * Nat.pow 256 (3 - position) + ·)
    else none

/-- An address as four decimal numbers. -/
def addressText (address : Nat) : List Char :=
  ['.'].intercalate ([3, 2, 1, 0].map fun i => Nat.toDigits 10 (address / Nat.pow 256 i % 256))

/-- The address that labels write, at most four of them. -/
def numericAddress? (labels : List (List Char)) : Option (List Char) := do
  let parts ← labels.mapM addressPart?
  if parts.length ≤ 4 then return addressText (← addressFrom? 0 parts) else none

/-! ### Normal form -/

/-- The labels of a name, without the empty one behind a last dot. -/
def significantLabels (labels : List (List Char)) : List (List Char) :=
  if labels.length ≠ 1 && labels.getLast? = some [] then labels.dropLast else labels

/-- A name as it is looked up, or the address that it writes. -/
def normalName? (name : List Char) : Option (List Char) := do
  let labels ← Domain.labels? name
  let significant := significantLabels labels
  if labels.all List.isEmpty && labels.length ≤ 1 then none
  else if (significant.getLast?.map isNumeric).getD false then numericAddress? significant
  else some (['.'].intercalate labels)

/-- An address of eight groups, behind its opening bracket. -/
def bracketed? (address : List Char) : Option (List Char) := do
  if address.getLast? = some ']' then
    let groups ← Ipv6.groups? address.dropLast
    return ['['] ++ Ipv6.text groups ++ [']']
  else none

/-- The host in normal form, if it is one. -/
def normal? : List Char → Option (List Char)
  | '[' :: address => bracketed? address
  | host => do
    let text ← Utf8.decode? (Percent.decodeLoosely host)
    normalName? text.toList

/-- Characters that no host holds. -/
def delimiters : String := "\x00\t\n\r #/:<>?@[\\]^|"

/-- The host of a scheme without hosts of the network. -/
def plain? : List Char → Option (List Char)
  | '[' :: address => bracketed? address
  | host =>
    if host.any delimiters.toList.contains then none else some (Percent.encodeBut "" host)

end HostName

end EntitySync
