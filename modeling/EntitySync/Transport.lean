import EntitySync.Credential
import EntitySync.Json.Parser

/-!
# Transports

A transport sends one request and gives back one reply. It never looks for a credential of its own:
the request carries the one to use. Nothing is sent twice.
-/

namespace EntitySync

/-- A JSON body for a URL, under a credential or under none. -/
structure Request where
  url : String
  body : Json
  credential : Option Credential

/-- Why a request was not answered. -/
inductive SendFailure where
  /-- The request cannot be written. -/
  | notWritable
  /-- Requests are not sent to such an address. -/
  | unfit (address : String)
  /-- The address cannot be reached. -/
  | notSent (address : String)
deriving DecidableEq

namespace SendFailure

def message : SendFailure → String
  | .notWritable => "builder error"
  | .unfit address => s!"builder error for url ({address})"
  | .notSent address => s!"error sending request for url ({address})"

end SendFailure

/-- Why the body of a response is no JSON value. -/
inductive BodyFault where
  | syntaxError (error : Json.ParseError)
  /-- There was no response to give. -/
  | nothingQueued
deriving DecidableEq

namespace BodyFault

def message : BodyFault → String
  | .syntaxError error => error.message
  | .nothingQueued => "no response queued"

end BodyFault

/-- Why a request has no JSON value as its reply. -/
inductive TransportError where
  | request (url : String) (failure : SendFailure)
  | notJson (url : String) (status : Nat) (fault : BodyFault)
deriving DecidableEq

namespace TransportError

def message : TransportError → String
  | .request url failure => s!"request to {url} failed: {failure.message}"
  | .notJson url status fault =>
    s!"response from {url} (status {status}) is not JSON: {fault.message}"

end TransportError

/-- What comes back for a request. -/
abbrev Reply := Except TransportError Json

/-! ### Scripted replies -/

/-- A transport that replays responses in order and keeps the requests. -/
structure Script where
  responses : List Json := []
  /-- Requests so far, the last one first. -/
  received : List Request := []

namespace Script

/-- Put a response behind the others. -/
def push (s : Script) (response : Json) : Script :=
  { s with responses := s.responses ++ [response] }

/-- Requests so far, the first one first. -/
def requests (s : Script) : List Request := s.received.reverse

/-- Answer with the next response; without one, as for a body that is empty. -/
def post (request : Request) : StateM Script Reply := fun s =>
  let received := request :: s.received
  match s.responses with
  | response :: rest => (.ok response, ⟨rest, received⟩)
  | [] => (.error (.notJson request.url 200 .nothingQueued), ⟨[], received⟩)

end Script

end EntitySync
