import EntitySync.Record

/-!
# Collections

A collection is what the state holds for one entity type: a list of records, or a plain value such
as a session token. A JSON array is always read as a list of records.
-/

namespace EntitySync

/-- What the state holds for one entity type. -/
inductive Collection where
  | records (entries : List Record)
  | value (json : Json)

namespace Collection

def ofJson : Json → Collection
  | .array entries => .records (entries.map Record.mk)
  | other => .value other

def toJson : Collection → Json
  | .records entries => .array (entries.map Record.json)
  | .value json => json

def records? : Collection → Option (List Record)
  | .records entries => some entries
  | .value _ => none

/-- Equality of contents; a list of records is no plain value. -/
def equal : Collection → Collection → Bool
  | .records as, .records bs => Json.equalElements (as.map Record.json) (bs.map Record.json)
  | .value a, .value b => a.equal b
  | _, _ => false

@[simp] theorem toJson_ofJson (value : Json) : (ofJson value).toJson = value := by
  cases value <;> simp [ofJson, toJson, Function.comp_def]

end Collection

end EntitySync
