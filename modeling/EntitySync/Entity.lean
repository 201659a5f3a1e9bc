import EntitySync.Fold

/-!
# Typed views of collections

An entity type of an application gives its records a checked shape: the name of the collection and
a decoder for each record. Two entity types are given, which also show how a view is written.
-/

namespace EntitySync

/-- An entity type whose records decode to values. -/
structure EntityView (α : Type) where
  entityType : String
  decode : Json → Decoded α
  encode : α → Json

namespace Snapshot

/-- The records of an entity type, decoded. A missing collection has none; a plain value fails. -/
def entities {α : Type} (s : Snapshot) (view : EntityView α) : Decoded (List α) :=
  match s.get? view.entityType with
  | none => .ok []
  | some collection => Decode.list view.decode collection.toJson

end Snapshot

/-! ### Transactions -/

/-- An amount booked under an id. -/
structure Transaction where
  id : Int
  amount : Int
deriving DecidableEq

namespace Transaction

def ofJson : Json → Decoded Transaction
  | .object members => do
    let amount ← Decode.member? members "amt" Decode.int64
    let id ← Decode.member? members "id" Decode.int64
    return ⟨← Decode.require "id" id, ← Decode.require "amt" amount⟩
  | .array [] => .error (.tooShort 0 "Transaction" 2)
  | .array (id :: rest) => do
    let id ← Decode.int64 id
    match rest with
    | [] => .error (.tooShort 1 "Transaction" 2)
    | amount :: rest =>
      let amount ← Decode.int64 amount
      if rest.isEmpty then return ⟨id, amount⟩ else .error (.tooLong (rest.length + 2))
  | other => .error (.wrongKind other (.structure "Transaction"))

/-- A member with an integer that fits a word; others are null. -/
def integerJson (n : Int) : Json :=
  ((Number.ofInt? n).map Json.number).getD .null

def toJson (t : Transaction) : Json :=
  .object [("id", integerJson t.id), ("amt", integerJson t.amount)]

def view : EntityView Transaction := ⟨"Transaction", ofJson, toJson⟩

end Transaction

/-! ### Events -/

/-- Something that happens, perhaps under a title. -/
structure Event where
  id : String
  title : Option String
deriving DecidableEq

namespace Event

def ofJson : Json → Decoded Event
  | .object members => do
    let id ← Decode.member? members "id" Decode.text
    let title ← Decode.member? members "title" (Decode.optional Decode.text)
    return ⟨← Decode.require "id" id, title.getD none⟩
  | .array [] => .error (.tooShort 0 "Event" 2)
  | .array (id :: rest) => do
    let id ← Decode.text id
    match rest with
    | [] => return ⟨id, none⟩
    | title :: rest =>
      let title ← Decode.optional Decode.text title
      if rest.isEmpty then return ⟨id, title⟩ else .error (.tooLong (rest.length + 2))
  | other => .error (.wrongKind other (.structure "Event"))

def toJson (e : Event) : Json :=
  .object [("id", .string e.id), ("title", (e.title.map Json.string).getD .null)]

def view : EntityView Event := ⟨"Event", ofJson, toJson⟩

end Event

end EntitySync
