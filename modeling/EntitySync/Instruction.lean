import EntitySync.Operation

/-!
# Instructions

An instruction is the answer of an endpoint: a batch of operations, an optional error payload, and
an optional place to go to.
-/

namespace EntitySync

/-- The answer of an endpoint. -/
structure Instruction where
  operations : List Operation := []
  errors : Option Json := none
  redirect : String := ""

namespace Instruction

/-- An instruction that changes nothing and reports errors. -/
def withErrors (errors : Json) : Instruction := { errors := some errors }

/-- The errors, unless they are null. -/
def reported? (i : Instruction) : Option Json :=
  match i.errors with
  | some .null => none
  | errors => errors

def hasErrors (i : Instruction) : Bool := i.reported?.isSome

/-- Where the server sends the client, if anywhere. -/
def redirect? (i : Instruction) : Option String :=
  if i.redirect = "" then none else some i.redirect

/-! ### On the wire -/

def toJson (i : Instruction) : Json :=
  .object [("operations", .array (i.operations.map Operation.toJson)),
    ("errors", i.errors.getD .null), ("redirect", .string i.redirect)]

/-- What a serializer of maps writes: an object that takes up one field after the other. -/
def serialize (i : Instruction) : Json :=
  .object (Entries.ofList [("operations", .array (i.operations.map Operation.serialize)),
    ("errors", i.errors.getD .null), ("redirect", .string i.redirect)])

def decodeOperations : Json → Decoded (List Operation) :=
  Decode.list Operation.ofJson

def decodeErrors : Json → Decoded (Option Json) :=
  Decode.optional Except.ok

/-- Decode an object or a list of at most three; absent parts take their defaults. -/
def ofJson : Json → Decoded Instruction
  | .object members => do
    let errors ← Decode.member? members "errors" decodeErrors
    let operations ← Decode.member? members "operations" decodeOperations
    let redirect ← Decode.member? members "redirect" Decode.text
    return ⟨operations.getD [], errors.getD none, redirect.getD ""⟩
  | .array [] => return {}
  | .array (operations :: rest) => do
    let operations ← decodeOperations operations
    match rest with
    | [] => return { operations }
    | errors :: rest =>
      let errors ← decodeErrors errors
      match rest with
      | [] => return { operations, errors }
      | redirect :: rest =>
        let redirect ← Decode.text redirect
        if rest.isEmpty then return { operations, errors, redirect }
        else .error (.tooLong (rest.length + 3))
  | other => .error (.wrongKind other (.structure "Instruction"))

end Instruction

end EntitySync
