import EntitySync.Text.Punycode
import EntitySync.Url.Domain.Direction
import EntitySync.Url.Domain.Joiner
import EntitySync.Url.Domain.Mapping

/-!
# Domain names in ASCII

A domain name consists of labels between dots. A label with other characters than those of ASCII has
an encoded form, which starts with `xn--`. Whichever form is given, the label is checked as it is
shown, and the encoded form is the one that is looked up.
-/

namespace EntitySync

namespace Domain

/-- What an encoded label starts with. -/
def encodedMark : List Char := ['x', 'n', '-', '-']

/-- Greatest length of what is encoded. -/
def longestShown : Nat := 1000

/-- Greatest length of what is decoded. -/
def longestEncoded : Nat := 2000

def isAscii (label : List Char) : Bool := label.all fun c => c.toNat < 128

/-- Characters that no name holds. -/
def isForbidden (c : Char) : Bool :=
  c.toNat ≤ 0x20 || c.toNat = 0x7F || "#/:<>?@[\\]^|%".toList.contains c

/-- The name in the spelling in which it is looked up. -/
def spelled? (name : List Char) : Option (List Char) :=
  (spelling? (name.map Char.toNat)).map fun codes => codes.map Char.ofNat

/-- A label as it is shown. What an encoded label stands for has to be spelled properly. -/
def shown? (label : List Char) : Option (List Char) :=
  if encodedMark.isPrefixOf label then do
    let encoded := label.drop encodedMark.length
    if label.getLast? = some '-' || longestEncoded < encoded.length then none
    else
      let shown ← Punycode.decode? encoded
      if spelled? shown = some shown then some shown else none
  else some label

/-- A label that may be part of a name: it does not start with a mark, and its joiners fit. -/
def isLabel (label : List Char) : Bool :=
  let codes := label.map Char.toNat
  isAscii label ||
    (!codes.head?.any Text.isMark && joinersFit [] codes && label.length ≤ longestShown)

/-- A label as it is looked up. -/
def encoded (label : List Char) : List Char :=
  if isAscii label then label else encodedMark ++ Punycode.encode label

/-- The labels of a name as they are looked up, if all of them are sound. -/
def labels? (name : List Char) : Option (List (List Char)) := do
  let spelled ← spelled? name
  if spelled.any isForbidden then none
  else
    let shown ← (spelled.splitOn '.').mapM shown?
    let codes := shown.map fun label => label.map Char.toNat
    let isOrdered := !isBidirectional codes.flatten || codes.all keepsTogether
    if shown.all isLabel && isOrdered then some (shown.map encoded) else none

end Domain

end EntitySync
