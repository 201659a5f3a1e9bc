import EntitySync.Json.Shape
import EntitySync.Record

/-!
# Operations

An operation is one change to the collection of an entity type, as the server sends it: a verb, the
entity type, and a target whose meaning depends on the verb. Nothing is checked yet, so that an
operation with an unknown verb or an unfit target can be reported as it was sent.
-/

namespace EntitySync

/-! ### Verbs -/

/-- What an operation does. -/
inductive Verb where
  | merge
  | mergeAppend
  | mergePrepend
  | add
  | overwrite
  | delete
  /-- A word outside the vocabulary, kept as it was sent. -/
  | unknown (word : String)
deriving DecidableEq

namespace Verb

/-- The word on the wire. -/
def word : Verb → String
  | .merge => "MERGE"
  | .mergeAppend => "MERGE_APPEND"
  | .mergePrepend => "MERGE_PREPEND"
  | .add => "ADD"
  | .overwrite => "OVERWRITE"
  | .delete => "DELETE"
  | .unknown word => word

def ofWord (word : String) : Verb :=
  if word = "MERGE" then .merge
  else if word = "MERGE_APPEND" then .mergeAppend
  else if word = "MERGE_PREPEND" then .mergePrepend
  else if word = "ADD" then .add
  else if word = "OVERWRITE" then .overwrite
  else if word = "DELETE" then .delete
  else .unknown word

@[simp] theorem word_ofWord (word : String) : (ofWord word).word = word := by
  unfold ofWord
  repeat' split
  all_goals simp_all [Verb.word]

end Verb

/-! ### Operations -/

/-- Name of a collection in the server state. -/
abbrev EntityType := String

/-- One change to a collection, as sent by the server. -/
structure Operation where
  verb : Verb
  entityType : EntityType
  target : Json

namespace Operation

/-- Update or insert records by id, behind the untouched ones. -/
def merge (entityType : EntityType) (records : List Record) : Operation :=
  ⟨.merge, entityType, .array (records.map Record.json)⟩

/-- Update or insert records by id, before the untouched ones. -/
def mergePrepend (entityType : EntityType) (records : List Record) : Operation :=
  ⟨.mergePrepend, entityType, .array (records.map Record.json)⟩

/-- Replace the whole collection. -/
def overwrite (entityType : EntityType) (value : Json) : Operation :=
  ⟨.overwrite, entityType, value⟩

/-- Remove the records with the id of the given one. -/
def delete (entityType : EntityType) (record : Record) : Operation :=
  ⟨.delete, entityType, record.json⟩

/-- How an operation is named in messages. -/
def label (o : Operation) : String :=
  o.verb.word ++ " " ++ o.entityType

/-! ### On the wire -/

def toJson (o : Operation) : Json :=
  .object [("verb", .string o.verb.word), ("entity_type", .string o.entityType),
    ("target_value", o.target)]

/-- What a serializer of maps writes: an object that takes up one field after the other. -/
def serialize (o : Operation) : Json :=
  .object (Entries.ofList [("verb", .string o.verb.word), ("entity_type", .string o.entityType),
    ("target_value", o.target)])

/-- Decode an object with the three members, or a list of the three. -/
def ofJson : Json → Decoded Operation
  | .object members => do
    let entityType ← Decode.member? members "entity_type" Decode.text
    let target ← Decode.member? members "target_value" Except.ok
    let verb ← Decode.member? members "verb" Decode.text
    let verb ← Decode.require "verb" verb
    let entityType ← Decode.require "entity_type" entityType
    let target ← Decode.require "target_value" target
    return ⟨.ofWord verb, entityType, target⟩
  | .array [] => .error (.tooShort 0 "Operation" 3)
  | .array (verb :: rest) => do
    let verb ← Decode.text verb
    match rest with
    | [] => .error (.tooShort 1 "Operation" 3)
    | entityType :: rest =>
      let entityType ← Decode.text entityType
      match rest with
      | [] => .error (.tooShort 2 "Operation" 3)
      | [target] => return ⟨.ofWord verb, entityType, target⟩
      | _ :: _ :: _ => .error (.tooLong (rest.length + 2))
  | other => .error (.wrongKind other (.structure "Operation"))

end Operation

end EntitySync
