import EntitySync.Change
import EntitySync.Snapshot

/-!
# Folding operations into a snapshot

Operations are applied from left to right. The first that is rejected stops the fold; the snapshot
reached by the operations before it is kept.
-/

namespace EntitySync

/-- A batch of operations stopped at an index. -/
structure FoldError where
  index : Nat
  /-- The snapshot that the operations before the index give. -/
  applied : Snapshot
  source : Rejection

def FoldError.message (e : FoldError) : String :=
  s!"operation {e.index} of batch failed: {e.source.message}"

namespace Snapshot

/-- The records that can be changed; a missing or null collection has none. -/
def changeable? (s : Snapshot) (entityType : String) : Option (List Record) :=
  match s.get? entityType with
  | none => some []
  | some (.records entries) => some entries
  | some (.value .null) => some []
  | some (.value (.array entries)) => some (entries.map Record.mk)
  | some (.value _) => none

/-- The collection after a change; a plain value cannot be merged with or deleted from. -/
def changed (s : Snapshot) (entityType : String) : Change → Except Cause Collection
  | .overwrite value => .ok value
  | .merge incoming placement =>
    match s.changeable? entityType with
    | some existing => .ok (.records (Change.mergeInto existing incoming placement))
    | none => .error .notRecords
  | .delete ids =>
    match s.changeable? entityType with
    | some existing => .ok (.records (Change.without ids existing))
    | none => .error .notRecords

/-- Apply one operation. -/
def apply (s : Snapshot) (o : Operation) : Except Rejection Snapshot :=
  match (Change.ofOperation o).bind (s.changed o.entityType) with
  | .ok collection => .ok (s.set o.entityType collection)
  | .error cause => .error ⟨o, cause⟩

/-- Apply operations, the first of which has the given index. -/
def applyFrom (index : Nat) (s : Snapshot) : List Operation → Except FoldError Snapshot
  | [] => .ok s
  | o :: os =>
    match s.apply o with
    | .ok next => applyFrom (index + 1) next os
    | .error source => .error ⟨index, s, source⟩

/-- Apply operations from left to right. -/
def applyAll (s : Snapshot) (operations : List Operation) : Except FoldError Snapshot :=
  applyFrom 0 s operations

end Snapshot

end EntitySync
