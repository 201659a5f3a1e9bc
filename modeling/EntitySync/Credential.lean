/-!
# Credentials

A credential is a bearer token. It is sent in a header of its own and never shown.
-/

namespace EntitySync

/-- A bearer token. -/
structure Credential where
  token : String
deriving DecidableEq

namespace Credential

/-- An empty token is no credential. -/
def ofToken? (token : String) : Option Credential :=
  if token = "" then none else some ⟨token⟩

/-- Value of the authorization header. -/
def header (c : Credential) : String := "JWT " ++ c.token

/-- What is shown in place of a credential. -/
def mask (_ : Credential) : String := "Credential(***)"

@[simp] theorem ofToken?_eq_some_iff {token : String} {c : Credential} :
    ofToken? token = some c ↔ token ≠ "" ∧ c = ⟨token⟩ := by
  unfold ofToken?
  split <;> simp_all [eq_comm]

end Credential

end EntitySync
