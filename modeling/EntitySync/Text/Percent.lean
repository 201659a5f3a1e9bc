import EntitySync.Text.Digits
import EntitySync.Text.Utf8

/-!
# Percent encoding

A text becomes one segment of a URL path: the unreserved characters stand as they are, every other
byte of its UTF-8 form is written as a percent sign and two uppercase hexadecimal digits.
-/

namespace EntitySync

namespace Percent

/-- Letters, digits and four marks need no encoding. -/
def isUnreserved (b : UInt8) : Bool :=
  (0x41 ≤ b && b ≤ 0x5A) || (0x61 ≤ b && b ≤ 0x7A) || (0x30 ≤ b && b ≤ 0x39) ||
    b = Utf8.byte '-' || b = Utf8.byte '_' || b = Utf8.byte '.' || b = Utf8.byte '~'

/-- Uppercase hexadecimal digit of a number below sixteen. -/
def hexDigit (n : Nat) : Char :=
  if n < 10 then Char.ofNat (0x30 + n) else Char.ofNat (0x37 + n)

/-- A byte as it is written if the bytes of a class stand for themselves. -/
def encodeByte (isPlain : UInt8 → Bool) (b : UInt8) : List Char :=
  if isPlain b then [Char.ofNat b.toNat]
  else ['%', hexDigit (b.toNat / 16), hexDigit (b.toNat % 16)]

def encodeBytes (isPlain : UInt8 → Bool) (bytes : List UInt8) : List Char :=
  bytes.flatMap (encodeByte isPlain)

/-- A visible character or a space, other than the marks that are listed. -/
def isPlainBut (marks : String) (b : UInt8) : Bool :=
  0x20 ≤ b && b < 0x7F && !(marks.toList.contains (Char.ofNat b.toNat))

/-- The characters in which only plain ones stand for themselves. -/
def encodeBut (marks : String) (cs : List Char) : List Char :=
  encodeBytes (isPlainBut marks) (Utf8.encode (String.ofList cs))

/-- The text as one segment of a path. -/
def encode (text : String) : String :=
  String.ofList (encodeBytes isUnreserved (Utf8.encode text))

/-- The bytes that an encoded text stands for; every percent sign has to start a byte. -/
def decode? : List Char → Option (List UInt8)
  | [] => some []
  | '%' :: a :: b :: rest => do
    let high ← Text.digitValue? 16 a
    let low ← Text.digitValue? 16 b
    return (16 * high + low).toUInt8 :: (← decode? rest)
  | c :: rest => if c = '%' then none else (decode? rest).map (String.utf8EncodeChar c ++ ·)

/-- The bytes that an encoded text stands for, if a percent sign that starts no byte stands for
itself. -/
def decodeLoosely : List Char → List UInt8
  | [] => []
  | '%' :: a :: b :: rest =>
    match Text.digitValue? 16 a, Text.digitValue? 16 b with
    | some high, some low => (16 * high + low).toUInt8 :: decodeLoosely rest
    | _, _ => Utf8.byte '%' :: decodeLoosely (a :: b :: rest)
  | c :: rest => String.utf8EncodeChar c ++ decodeLoosely rest

end Percent

end EntitySync
