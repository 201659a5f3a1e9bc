import EntitySync.Json

/-!
# Record ids

Records are identified by their `id` member. Ids are compared strictly, but numbers by value, so
that `1` and `1.0` are the same id. A missing id and a null id are distinct. Objects and arrays are
no ids: they match nothing.
-/

namespace EntitySync

/-- The comparable form of an `id` member. -/
inductive RecordId where
  /-- There is no `id` member. -/
  | absent
  | null
  | bool (value : Bool)
  | integer (value : Int)
  /-- A number with a fractional part, or too large to be kept as an integer. -/
  | double (value : Double)
  | text (value : String)
deriving DecidableEq

namespace RecordId

/-- The id that a double denotes: an integer if it is one and below `1e38` in magnitude. -/
def ofDouble (d : Double) : RecordId :=
  match d.toInt? with
  | some n => if d.magnitude < Double.powerOfTen 38 then .integer n else .double d
  | none => .double d

def ofNumber : Number → RecordId
  | .integer n _ => .integer n
  | .double d => ofDouble d

/-- The id that a member holds. -/
def ofMember? : Json → Option RecordId
  | .null => some .null
  | .bool b => some (.bool b)
  | .number n => some (ofNumber n)
  | .string s => some (.text s)
  | .array _ | .object _ => none

/-- The id of an entry. Entries that are not objects have none, which is an absent id. -/
def of? (entry : Json) : Option RecordId :=
  match entry.get? "id" with
  | none => some .absent
  | some member => ofMember? member

end RecordId

end EntitySync
