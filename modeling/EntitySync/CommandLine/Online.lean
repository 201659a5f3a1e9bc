import EntitySync.CommandLine.Offline

/-!
# Commands with a server

Calling an endpoint and logging in. What is sent is decided before the reply is known, so each
command is a store that is prepared, one call, and a report on what the call gives back.
-/

namespace EntitySync

namespace CommandLine

/-- A store on the configured server. -/
def configuredStore (c : Config) (credential : Option Credential) : Except CommandError Store :=
  match c.effectiveBaseUrl with
  | .ok baseUrl => .ok { baseUrl, fallback := credential }
  | .error e => .error (.baseUrl e)

variable {m : Type → Type} [Monad m]

/-! ### Calling an endpoint -/

namespace CallArguments

/-- The token on the command line hides the configured one, also if it is empty. -/
def credential? (a : CallArguments) (c : Config) : Option Credential :=
  match a.token with
  | some token => Credential.ofToken? token
  | none => c.credential?

/-- The store and the body of the call. The body is read first. -/
def prepare (a : CallArguments) (c : Config) : Except CommandError (Store × Json) := do
  let body ← (Json.parse a.body).mapError (.notJson .body)
  let store ← configuredStore c (a.credential? c)
  return (store, body)

/-- The state after a call, also after a batch that stopped early. -/
def stateReport (called : Except DispatchError Answer × Store) : Report :=
  match called with
  | (.ok _, store) => .json store.state.toJson
  | (.error (.fold e), store) =>
    { Report.json store.state.toJson with error := some (.dispatch (.fold e)) }
  | (.error e, _) => .failure (.dispatch e)

/-- The response itself. -/
def rawReport : Except DispatchError Json → Report
  | .ok response => .json response
  | .error e => .failure (.dispatch e)

def run (post : Request → m Reply) (c : Config) (a : CallArguments) : m Report :=
  match a.prepare c with
  | .error e => return .failure e
  | .ok (store, body) =>
    if a.raw then return rawReport (← store.callEndpointWith post a.endpoint body id)
    else return stateReport (← store.callEndpoint post a.endpoint body)

end CallArguments

/-! ### Logging in -/

namespace LoginArguments

/-- What is sent to log in. -/
def body (username password : String) : Json :=
  .object [("username", .string username), ("password", .string password)]

/-- The session token, or why there is none. -/
def tokenReport (called : Except DispatchError Answer × Store) : Report :=
  match called with
  | (.error e, _) => .failure (.dispatch e)
  | (.ok answer, store) =>
    match answer.instruction.reported?, store.state.sessionToken? with
    | some errors, _ => .failure (.rejected errors)
    | none, some token => .line token
    | none, none => .failure .noToken

/-- Log in with a password. The call itself carries no credential. -/
def run (post : Request → m Reply) (c : Config) (a : LoginArguments) (password : String) :
    m Report :=
  match configuredStore c none with
  | .error e => return .failure e
  | .ok store =>
    return tokenReport (← store.callEndpoint post a.endpoint (body a.username password))

end LoginArguments

end CommandLine

end EntitySync
