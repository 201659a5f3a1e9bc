import EntitySync.Collection
import EntitySync.Json.Shape

/-!
# Snapshots

A snapshot is the whole server state at one moment: a collection for each entity type, in the order
of the names. Snapshots do not change; an update gives a new one.
-/

namespace EntitySync

/-- The server state at one moment. -/
structure Snapshot where
  collections : Dict Collection

namespace Snapshot

def empty : Snapshot := ⟨.empty⟩

instance : Inhabited Snapshot := ⟨empty⟩

def get? (s : Snapshot) (entityType : String) : Option Collection :=
  s.collections.get? entityType

/-- The snapshot with one collection replaced. -/
def set (s : Snapshot) (entityType : String) (collection : Collection) : Snapshot :=
  ⟨s.collections.insert entityType collection⟩

theorem get?_set (s : Snapshot) (entityType other : String) (collection : Collection) :
    (s.set entityType collection).get? other =
      if other = entityType then some collection else s.get? other :=
  Dict.get?_insert s.collections entityType other collection

/-- Snapshots with the same collections are equal. -/
theorem ext_get? {s t : Snapshot} (h : ∀ entityType, s.get? entityType = t.get? entityType) :
    s = t := by
  cases s
  cases t
  congr
  exact Dict.ext_get? h

/-! ### Reading -/

/-- Records of an entity type; none if its collection is missing or a plain value. -/
def records (s : Snapshot) (entityType : String) : List Record :=
  ((s.get? entityType).bind Collection.records?).getD []

/-- Names of the collections, ascending. -/
def entityTypes (s : Snapshot) : List String := s.collections.keys

def size (s : Snapshot) : Nat := s.collections.size

def isEmpty (s : Snapshot) : Bool := s.size = 0

/-- The entity type under which the server hands out the session token. -/
def tokenType : String := "jwt_auth_token"

/-- The session token, if the server has handed one out. -/
def sessionToken? (s : Snapshot) : Option String :=
  match s.get? tokenType with
  | some (.value (.string token)) => if token = "" then none else some token
  | _ => none

/-- Equality of the collections, type by type. -/
def equal (s t : Snapshot) : Bool :=
  s.entityTypes = t.entityTypes &&
    (s.collections.entries.zip t.collections.entries).all fun (a, b) => a.2.equal b.2

/-! ### As JSON -/

def toJson (s : Snapshot) : Json :=
  .object (s.collections.entries.map fun (entityType, c) => (entityType, c.toJson))

/-- What a serializer of maps writes: an object that takes up one collection after the other. -/
def serialize (s : Snapshot) : Json :=
  .object (Entries.ofList (s.collections.entries.map fun (entityType, c) => (entityType, c.toJson)))

/-- Decode an object of collections. -/
def ofJson : Json → Decoded Snapshot
  | .object members =>
    .ok ⟨.ofList (members.map fun (entityType, v) => (entityType, .ofJson v))⟩
  | other => .error (.wrongKind other .map)

end Snapshot

end EntitySync
