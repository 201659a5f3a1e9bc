import EntitySync.Proofs.Layers
import EntitySync.Proofs.Machine
import EntitySync.Proofs.Session

/-!
# Credentials of commands

A call makes one request, under the first token that is set on the command line, in the environment
or in the configuration file. If that token is empty, the request carries no credential, whatever
the layers below hold. A login makes one request, too, which never carries one.
-/

namespace EntitySync

open CommandLine

/-! ### Tokens -/

/-- The credential that is sent for a token, and the header value: none and an empty one if the
token is missing or empty. -/
inductive Authorizes : Option String → Option Credential → String → Prop where
  | missing : Authorizes none none ""
  | empty : Authorizes (some "") none ""
  | token {token : String} (h : token ≠ "") :
      Authorizes (some token) (some ⟨token⟩) ("JWT " ++ token)

/-- A header of a legal token is legal. -/
lemma Authorizes.isHeaderValue {token? : Option String} {credential : Option Credential}
    {header : String} (h : Authorizes token? credential header)
    (hlegal : ∀ token ∈ token?, Http.isHeaderValue token = true) :
    Http.isHeaderValue header = true := by
  cases h with
  | missing | empty => rfl
  | @token token h =>
    have htoken : Http.isHeaderValue token = true := hlegal token rfl
    have hscheme : Http.isHeaderValue "JWT " = true := rfl
    rw [Http.isHeaderValue] at htoken hscheme ⊢
    rw [String.toList_append, List.all_append, htoken, hscheme, Bool.and_self]

/-- The configured credential comes from the environment, or else from the file. -/
lemma Config.Resolves.credential?_eq {path : String} {found : Option FileSettings}
    {env : Environment} {port? : Option UInt16} {c : Config}
    (h : Config.Resolves path found env port? c) :
    c.credential? = (env.authToken.or (found.getD {}).authToken).bind Credential.ofToken? := by
  rw [Config.credential?, h.authToken.value_eq_or]

/-! ### Messages -/

namespace Http

end Http

/-! ### Requests -/

namespace CommandLine

variable {c : Config} {base : BaseUrl} {body : Json}

/-- A store that has received nothing sends its fallback. -/
lemma request_of_empty (base : BaseUrl) (fallback : Option Credential) (endpoint : String)
    (body : Json) :
    Store.request { baseUrl := base, fallback } endpoint body =
      ⟨base.endpointUrl endpoint, body, fallback⟩ := rfl

namespace CallArguments

variable {a : CallArguments}

lemma credential?_eq {token? : Option String}
    (h : c.credential? = token?.bind Credential.ofToken?) :
    a.credential? c = (a.token.or token?).bind Credential.ofToken? := by
  unfold credential?
  cases a.token with
  | none => exact h
  | some token => rfl

/-- A call is one request and a report on the reply, whatever carries the request. -/
lemma exists_run_eq (hbody : Json.parse a.body = .ok body)
    (hbase : c.effectiveBaseUrl = .ok base) :
    ∃ report : Reply → Report, ∀ {m : Type → Type} [Monad m] [LawfulMonad m]
      (post : Request → m Reply),
      a.run post c = report <$> post ⟨base.endpointUrl a.endpoint, body, a.credential? c⟩ := by
  have hprepare := Machine.prepare_eq_ok_iff.mpr ⟨hbody, base, hbase, rfl⟩
  cases hraw : a.raw with
  | true =>
    refine ⟨fun reply => rawReport (reply.mapError .transport), fun post => ?_⟩
    simp only [run, hprepare, hraw, if_true, Store.callEndpointWith, request_of_empty, bind_assoc,
      map_eq_pure_bind]
    congr 1
    funext reply
    cases reply <;> simp [Except.mapError]
  | false =>
    let store : Store := { baseUrl := base, fallback := a.credential? c }
    refine ⟨fun reply => stateReport (store.receive a.endpoint reply), fun post => ?_⟩
    simp [run, hprepare, hraw, Store.callEndpoint, request_of_empty, store]

end CallArguments

/-- A login is one request and a report on the reply, whatever carries the request. -/
lemma LoginArguments.exists_run_eq (a : LoginArguments) (hbase : c.effectiveBaseUrl = .ok base)
    (password : String) :
    ∃ report : Reply → Report, ∀ {m : Type → Type} [Monad m] [LawfulMonad m]
      (post : Request → m Reply), a.run post c password = report <$>
        post ⟨base.endpointUrl a.endpoint, LoginArguments.body a.username password, none⟩ := by
  let store : Store := { baseUrl := base }
  have hstore : configuredStore c none = .ok store :=
    Machine.configuredStore_eq_ok_iff.mpr ⟨base, hbase, rfl⟩
  refine ⟨fun reply => tokenReport (store.receive a.endpoint reply), fun post => ?_⟩
  simp [run, hstore, Store.callEndpoint, request_of_empty, store]

end CommandLine

/-! ### What goes over the wire -/

namespace Machine

variable {machine : Machine} {words : List String} {c : Config} {store : Store}
  {request : Request} {message : Http.Message}

/-- The machine as a host that keeps the messages that are sent, and nothing else. -/
def recorder (machine : Machine) : Host (StateM (List Http.Message)) where
  environmentVariable? name := pure (machine.environment name)
  fileText path := pure (machine.fileText path)
  readLine := pure machine.typed
  write _ := pure ()
  writeError _ := pure ()
  wire message := fun sent => (machine.server message, sent ++ [message])

/-- The messages that a run of the program sends, the first one first. -/
def sent (machine : Machine) (words : List String) : List Http.Message :=
  ((machine.recorder.run words).run []).2

/-- The words ask for a command. The run has a configuration, and the file has the given token. -/
inductive Asks (machine : Machine) (words : List String) (command : Command) (c : Config)
    (fileToken? : Option String) : Prop where
  | intro {path : Option String} {found : Option FileSettings}
      (hwords : Arguments.ofWords words = .ok ⟨path, some command⟩)
      (hconfig : machine.config path = .ok c)
      (hfile : (machine.fileText (path.getD machine.defaultPath)).Sets found)
      (htoken : (found.getD {}).authToken = fileToken?)

/-- The token of the environment hides the one of the file. -/
lemma Asks.credential?_eq {command : Command} {fileToken? : Option String}
    (h : machine.Asks words command c fileToken?) :
    c.credential? = ((machine.environment "SLOTO_AUTH_TOKEN").or fileToken?).bind
      Credential.ofToken? := by
  obtain ⟨-, hconfig, hfile, rfl⟩ := h
  obtain ⟨found, port?, hfound, -, hresolves⟩ := Config.load_eq_ok_iff.mp hconfig
  rw [hresolves.credential?_eq, hfound.unique hfile]
  rfl

end Machine

end EntitySync
