import EntitySync.RecordId

/-!
# Records

A record is one entry of a collection, kept exactly as it was sent. Entries are normally objects
with an `id`, but an entry of any shape is carried through untouched.
-/

namespace EntitySync

/-- An entry of a collection. -/
structure Record where
  json : Json

namespace Record

instance : Inhabited Record := ⟨⟨.null⟩⟩

/-- A record with nothing but an id. -/
def new (id : Json) : Record := ⟨.object [("id", id)]⟩

/-- Set a field. An entry that is no object stays as it is. -/
def set (r : Record) (key : String) (value : Json) : Record := ⟨r.json.set key value⟩

def get? (r : Record) (key : String) : Option Json := r.json.get? key

/-- The comparable id; none if the `id` member is an object or array. -/
def id? (r : Record) : Option RecordId := RecordId.of? r.json

/-- Both records have a comparable id, and it is the same. -/
def sameId (a b : Record) : Bool :=
  match a.id?, b.id? with
  | some i, some j => i = j
  | _, _ => false

theorem sameId_iff {a b : Record} : a.sameId b = true ↔ ∃ i, a.id? = some i ∧ b.id? = some i := by
  unfold sameId
  cases a.id? <;> cases b.id? <;> simp [eq_comm]

theorem sameId_comm (a b : Record) : a.sameId b = b.sameId a := by
  rw [Bool.eq_iff_iff, sameId_iff, sameId_iff]
  simp only [and_comm]

end Record

end EntitySync
