import EntitySync.Collection
import EntitySync.Rejection

/-!
# Changes

A change is what a checked operation does to the collection of its entity type. Checking looks at
the verb and the shape of the target only; whether the collection can be changed is decided when
the change is made.
-/

namespace EntitySync

/-- Where merged records land relative to the untouched ones. -/
inductive Placement where
  | append
  | prepend
deriving DecidableEq

/-- What a checked operation does to a collection. -/
inductive Change where
  /-- Replace the collection. -/
  | overwrite (value : Collection)
  /-- Update or insert records by id. -/
  | merge (records : List Record) (placement : Placement)
  /-- Remove every record whose id is listed. -/
  | delete (ids : List RecordId)

namespace Change

/-- The records that a merge brings. -/
def mergeRecords : Json → Except Cause (List Record)
  | .array entries => .ok (entries.map Record.mk)
  | _ => .error (.invalidTarget .records)

/-- The ids that a delete lists; ids that match nothing are left out. -/
def deletedIds : Json → Except Cause (List RecordId)
  | .array entries => .ok (entries.filterMap RecordId.of?)
  | .object members => .ok (RecordId.of? (.object members)).toList
  | _ => .error (.invalidTarget .recordOrRecords)

/-- The change that an operation asks for. -/
def ofOperation (o : Operation) : Except Cause Change :=
  match o.verb with
  | .overwrite => .ok (.overwrite (.ofJson o.target))
  | .merge | .mergeAppend => (mergeRecords o.target).map (.merge · .append)
  | .mergePrepend => (mergeRecords o.target).map (.merge · .prepend)
  | .delete => (deletedIds o.target).map .delete
  | .add => .error .unsupportedVerb
  | .unknown _ => .error .unknownVerb

/-- The comparable id of the record is listed. -/
def isListed (ids : List RecordId) (r : Record) : Bool :=
  match r.id? with
  | some id => ids.contains id
  | none => false

/-- The records whose id is not listed. -/
def without (ids : List RecordId) (records : List Record) : List Record :=
  records.filter fun r => !isListed ids r

/-- The records that an incoming list leaves untouched, with that list behind or before them. -/
def place (placement : Placement) (kept incoming : List Record) : List Record :=
  match placement with
  | .append => kept ++ incoming
  | .prepend => incoming ++ kept

/-- Merge incoming records into existing ones. -/
def mergeInto (existing incoming : List Record) (placement : Placement) : List Record :=
  place placement (without (incoming.filterMap Record.id?) existing) incoming

end Change

end EntitySync
