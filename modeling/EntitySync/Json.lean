import EntitySync.Dict
import EntitySync.Json.Number

/-!
# JSON values

A JSON value as the wire carries it. An object holds its members as a list; in a canonical value
the keys of every object ascend, so that the order in which an object was written is forgotten.
-/

namespace EntitySync

/-- A JSON value. -/
inductive Json where
  | null
  | bool (value : Bool)
  | number (value : Number)
  | string (value : String)
  | array (elements : List Json)
  | object (members : List (String × Json))

namespace Json

instance : Inhabited Json := ⟨.null⟩

/-- The member of an object; other values have none. -/
def get? (value : Json) (key : String) : Option Json :=
  match value with
  | .object members => members.lookup key
  | _ => none

/-- Set a member of an object; other values stay as they are. -/
def set (value : Json) (key : String) (member : Json) : Json :=
  match value with
  | .object members => .object (Entries.insert key member members)
  | other => other

@[simp] theorem get?_object (members : List (String × Json)) (key : String) :
    (object members).get? key = members.lookup key := rfl

@[simp] theorem set_object (members : List (String × Json)) (key : String) (member : Json) :
    (object members).set key member = object (Entries.insert key member members) := rfl

/-! ### Equality of values -/

mutual

/-- Equality of values; doubles are compared as numbers. -/
def equal : Json → Json → Bool
  | .null, .null => true
  | .bool a, .bool b => a = b
  | .number a, .number b => a.equal b
  | .string a, .string b => a = b
  | .array as, .array bs => equalElements as bs
  | .object as, .object bs => equalMembers as bs
  | _, _ => false

def equalElements : List Json → List Json → Bool
  | [], [] => true
  | a :: as, b :: bs => equal a b && equalElements as bs
  | _, _ => false

def equalMembers : List (String × Json) → List (String × Json) → Bool
  | [], [] => true
  | (k, a) :: as, (l, b) :: bs => k = l && equal a b && equalMembers as bs
  | _, _ => false

end

/-! ### Canonical values -/

mutual

/-- The keys of every object ascend. -/
def Canonical : Json → Prop
  | .array elements => CanonicalElements elements
  | .object members => Entries.Ascending members ∧ CanonicalMembers members
  | .null | .bool _ | .number _ | .string _ => True

def CanonicalElements : List Json → Prop
  | [] => True
  | e :: es => Canonical e ∧ CanonicalElements es

def CanonicalMembers : List (String × Json) → Prop
  | [] => True
  | (_, v) :: ms => Canonical v ∧ CanonicalMembers ms

end

end Json

end EntitySync
