import EntitySync.Json.Printer
import EntitySync.Text.Quoted

/-!
# Shapes of JSON values

A value is decoded into a type of the domain, or refused because its shape is wrong. A structure is
read from an object, whose unknown members are ignored, or from the list of its fields in order.

Of several faults the first in key order is reported, and a missing field only when the members
that are there decode.
-/

namespace EntitySync

/-- What a decoder asks for. -/
inductive Shape where
  | structure (name : String)
  | text
  | sequence
  | map
  | word16
  | int64
deriving DecidableEq

/-- Why a value does not decode. -/
inductive ShapeError where
  | wrongKind (found : Json) (expected : Shape)
  /-- An integer outside the range of its type. -/
  | outOfRange (found : Int) (expected : Shape)
  | missingField (name : String)
  /-- A list that ends before the required fields of a structure. -/
  | tooShort (length : Nat) (name : String) (fields : Nat)
  /-- A list with more elements than the structure has fields. -/
  | tooLong (length : Nat)

/-! ### Messages -/

namespace Shape

def description : Shape → String
  | .structure name => "struct " ++ name
  | .text => "a string"
  | .sequence => "a sequence"
  | .map => "a map"
  | .word16 => "u16"
  | .int64 => "i64"

end Shape

/-- The kind of a value, with the value itself where it is short. -/
def Json.kindText : Json → String
  | .null => "null"
  | .bool b => s!"boolean `{b}`"
  | .number (.integer n h) => s!"integer `{String.ofList (Number.text (.integer n h))}`"
  | .number (.double d) => s!"floating point `{String.ofList d.text}`"
  | .string s => "string " ++ Text.quoted s
  | .array _ => "sequence"
  | .object _ => "map"

namespace ShapeError

def message : ShapeError → String
  | .wrongKind found expected =>
    s!"invalid type: {found.kindText}, expected {expected.description}"
  | .outOfRange found expected =>
    let text := String.ofList (Number.integerText found)
    s!"invalid value: integer `{text}`, expected {expected.description}"
  | .missingField name => s!"missing field `{name}`"
  | .tooShort length name fields =>
    s!"invalid length {length}, expected struct {name} with {fields} elements"
  | .tooLong length => s!"invalid length {length}, expected fewer elements in array"

end ShapeError

/-! ### Decoders -/

/-- A value of the type, or why there is none. -/
abbrev Decoded (α : Type) := Except ShapeError α

namespace Decode

variable {α : Type}

def text : Json → Decoded String
  | .string s => .ok s
  | other => .error (.wrongKind other .text)

/-- An integer between two bounds. -/
def integer (expected : Shape) (least greatest : Int) : Json → Decoded Int
  | .number (.integer n _) =>
    if least ≤ n ∧ n ≤ greatest then .ok n else .error (.outOfRange n expected)
  | other => .error (.wrongKind other expected)

def int64 : Json → Decoded Int :=
  integer .int64 (-9223372036854775808) 9223372036854775807

/-- A 16-bit word. -/
def word16 (value : Json) : Decoded UInt16 :=
  (integer .word16 0 65535 value).map fun n => n.toNat.toUInt16

/-- An array whose elements all decode. -/
def list (element : Json → Decoded α) : Json → Decoded (List α)
  | .array es => es.mapM element
  | other => .error (.wrongKind other .sequence)

/-- A value that may be null. -/
def optional (decode : Json → Decoded α) : Json → Decoded (Option α)
  | .null => .ok none
  | other => (decode other).map some

/-- A member of an object, if it is there. -/
def member? (members : List (String × Json)) (name : String) (decode : Json → Decoded α) :
    Decoded (Option α) :=
  match members.lookup name with
  | none => .ok none
  | some value => (decode value).map some

/-- A member that must be there. -/
def require (name : String) : Option α → Decoded α
  | some a => .ok a
  | none => .error (.missingField name)

end Decode

end EntitySync
