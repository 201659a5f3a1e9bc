import EntitySync.BaseUrl
import EntitySync.Fold
import EntitySync.Instruction
import EntitySync.Transport

/-!
# Stores

A store owns the current snapshot and brings it up to date with what the endpoints answer. A failed
batch leaves the operations before the failing one applied; every other failure leaves the snapshot
as it is.

Sending is split in two: `request` says what is sent, `receive` what a reply does.
-/

namespace EntitySync

/-- Why a call did not succeed. -/
inductive DispatchError where
  | transport (error : TransportError)
  /-- The reply is JSON, but no instruction. -/
  | decode (endpoint : String) (fault : ShapeError)
  /-- An operation was rejected; those before it are applied. -/
  | fold (error : FoldError)

namespace DispatchError

def message : DispatchError → String
  | .transport error => error.message
  | .decode endpoint fault =>
    s!"response from endpoint '{endpoint}' is not an instruction: {fault.message}"
  | .fold error => error.message

end DispatchError

/-- The response of an endpoint, and the instruction that it decodes to. -/
structure Answer where
  response : Json
  instruction : Instruction

/-- The current snapshot, and how to reach the server. -/
structure Store where
  baseUrl : BaseUrl
  /-- Sent until the server has handed out a session token. -/
  fallback : Option Credential := none
  state : Snapshot := .empty

namespace Store

/-- The credential of the next call: the session token, else the fallback. -/
def credential? (s : Store) : Option Credential :=
  (s.state.sessionToken?.bind Credential.ofToken?).or s.fallback

/-- What a call of an endpoint sends. -/
def request (s : Store) (endpoint : String) (body : Json) : Request :=
  ⟨s.baseUrl.endpointUrl endpoint, body, s.credential?⟩

/-- Fold the operations of an instruction into the state. -/
def update (s : Store) (i : Instruction) : Except FoldError Unit × Store :=
  match s.state.applyAll i.operations with
  | .ok next => (.ok (), { s with state := next })
  | .error e => (.error e, { s with state := e.applied })

/-- What the reply of a call does. -/
def receive (s : Store) (endpoint : String) : Reply → Except DispatchError Answer × Store
  | .error e => (.error (.transport e), s)
  | .ok response =>
    match Instruction.ofJson response with
    | .error fault => (.error (.decode endpoint fault), s)
    | .ok i =>
      match s.update i with
      | (.ok _, next) => (.ok ⟨response, i⟩, next)
      | (.error e, next) => (.error (.fold e), next)

variable {m : Type → Type} [Monad m]

/-- Call an endpoint and fold the instruction it answers with. -/
def callEndpoint (post : Request → m Reply) (s : Store) (endpoint : String) (body : Json) :
    m (Except DispatchError Answer × Store) := do
  return s.receive endpoint (← post (s.request endpoint body))

/-- Call an endpoint and hand the raw response on, leaving the state as it is. -/
def callEndpointWith {α : Type} (post : Request → m Reply) (s : Store) (endpoint : String)
    (body : Json) (use : Json → α) : m (Except DispatchError α) := do
  match ← post (s.request endpoint body) with
  | .ok response => return .ok (use response)
  | .error e => return .error (.transport e)

end Store

end EntitySync
