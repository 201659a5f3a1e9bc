import EntitySync.Operation

/-!
# Rejected operations

An operation is rejected for one of four causes. The rejection carries the operation as it was
sent.
-/

namespace EntitySync

/-- What the target of an operation has to be. -/
inductive Expectation where
  | records
  | recordOrRecords
deriving DecidableEq

/-- Why an operation cannot be applied. -/
inductive Cause where
  /-- The verb is outside the vocabulary. -/
  | unknownVerb
  /-- The verb is in the vocabulary but has no meaning yet. -/
  | unsupportedVerb
  /-- The target does not have the shape that the verb asks for. -/
  | invalidTarget (expected : Expectation)
  /-- The collection holds a plain value. -/
  | notRecords
deriving DecidableEq

/-- An operation that cannot be applied. -/
structure Rejection where
  operation : Operation
  cause : Cause

namespace Rejection

def message (r : Rejection) : String :=
  let label := r.operation.label
  match r.cause with
  | .unknownVerb => s!"unknown verb in operation {label}"
  | .unsupportedVerb => s!"unsupported verb in operation {label}"
  | .invalidTarget .records =>
    s!"invalid target for operation {label}: expected a list of records"
  | .invalidTarget .recordOrRecords =>
    s!"invalid target for operation {label}: expected a record or a list of records"
  | .notRecords =>
    s!"collection {r.operation.entityType} does not hold records (operation {label})"

end Rejection

end EntitySync
