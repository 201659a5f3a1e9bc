import EntitySync.Http
import EntitySync.Proofs.TokenHistory

/-!
# Empty tokens

An empty token of the server is no credential, and neither is one on the command line or in the
configuration, which are checked. A store takes its fallback as it is, though: if that is a
credential with an empty token, it goes out whenever the server has handed out no token, under a
header with nothing behind the scheme. So it depends on the fallback alone whether an empty token is
ever sent.
-/

namespace EntitySync

/-- The request has no credential, or one whose token is not empty. -/
def Request.Proper (request : Request) : Prop :=
  ∀ c ∈ request.credential, c.token ≠ ""

lemma Request.proper_iff {request : Request} :
    request.Proper ↔ request.credential ≠ some ⟨""⟩ := by
  unfold Proper
  cases request.credential with
  | none => simp
  | some c =>
    cases c
    simp

namespace Http

/-- The header is the bare scheme for an empty token only. -/
lemma authorization_eq_scheme_iff {credential : Option Credential} :
    authorization credential = "JWT " ↔ credential = some ⟨""⟩ := by
  cases credential with
  | none => simp [authorization]
  | some c =>
    cases c
    simp [authorization, Credential.header]

end Http

namespace Store

variable {α : Type} {s : Store} {a : Action α} {actions : List (Action α)} {request : Request}

/-- An empty token is next if it is the fallback and the server has handed out none. -/
lemma credential?_eq_empty_iff :
    s.credential? = some ⟨""⟩ ↔ s.fallback = some ⟨""⟩ ∧ s.state.sessionToken? = none := by
  unfold credential?
  cases htoken : s.state.sessionToken? with
  | none => simp
  | some token =>
    have hne : token ≠ "" := (Snapshot.sessionToken?_eq_some_iff.mp htoken).2
    have hcredential : Credential.ofToken? token = some ⟨token⟩ :=
      Credential.ofToken?_eq_some_iff.mpr ⟨hne, rfl⟩
    simp [hcredential, hne]

lemma not_proper_iff_of_requestsOf (h : s.requestsOf a = [request]) :
    ¬ request.Proper ↔ s.fallback = some ⟨""⟩ ∧ s.state.sessionToken? = none := by
  rcases s.requestsOf_cases a with hnone | ⟨request', hrequest, hcredential⟩
  · cases hnone.symm.trans h
  · cases hrequest.symm.trans h
    rw [Request.proper_iff, hcredential, not_not, credential?_eq_empty_iff]

lemma exists_use_not_proper_iff {n : ℕ} (h : (s.requests actions)[n]? = some request) :
    ∃ before a later, actions = before ++ a :: later ∧ (s.requests before).length = n ∧
      (s.after before).requestsOf a = [request] ∧
      (¬ request.Proper ↔
        s.fallback = some ⟨""⟩ ∧ (s.after before).state.sessionToken? = none) := by
  obtain ⟨before, a, later, hactions, hn, huse⟩ := exists_use_of_request h
  refine ⟨before, a, later, hactions, hn, huse, ?_⟩
  rw [not_proper_iff_of_requestsOf huse, fallback_after]

/-- A session in which the token is taken away before a call. -/
def forgetting (α : Type) : List (Action α) :=
  [.update { operations := [⟨.overwrite, Snapshot.tokenType, .null⟩] }, .call "" .null (.ok .null)]

/-- The session sends the fallback, whatever the server has handed out. -/
lemma requests_forgetting (s : Store) :
    s.requests (forgetting α) = [⟨s.baseUrl.endpointUrl "", .null, s.fallback⟩] := by
  set forgot : Store := { s with state := s.state.set Snapshot.tokenType (.value .null) }
  have hupdate : s.afterUse (α := α)
      (.update { operations := [⟨.overwrite, Snapshot.tokenType, .null⟩] }) = forgot := rfl
  have hcredential : forgot.credential? = s.fallback := by
    rw [credential?_eq]
    simp [forgot, Snapshot.get?_set]
  rw [forgetting, requests_cons, hupdate, requests_cons, requests_nil, requestsOf, requestsOf,
    hcredential]
  rfl

/-- A request has an empty token, and the bare scheme as its header, exactly if that is the fallback
and the server has handed out no token when the request is made. So no session sends an empty token
exactly if the fallback is no credential with an empty token, as none is that comes from a token
that is checked. -/
theorem requests_proper_iff (s : Store) :
    (∀ (actions : List (Action α)) (n : ℕ) (request : Request),
      (s.requests actions)[n]? = some request →
      (Http.authorization request.credential = "JWT " ↔ ¬ request.Proper) ∧
      ∃ before a later, actions = before ++ a :: later ∧ (s.requests before).length = n ∧
        (s.after before).requestsOf a = [request] ∧
        (¬ request.Proper ↔
          s.fallback = some ⟨""⟩ ∧ (s.after before).state.sessionToken? = none)) ∧
    ((∀ actions : List (Action α), ∀ request ∈ s.requests actions, request.Proper) ↔
      s.fallback ≠ some ⟨""⟩) ∧
    ∀ token? : Option String, token?.bind Credential.ofToken? ≠ some ⟨""⟩ := by
  refine ⟨fun actions n request hrequest => ⟨?_, exists_use_not_proper_iff hrequest⟩,
    ⟨fun h hfallback => ?_, fun h actions request hrequest => ?_⟩, fun token? => ?_⟩
  · rw [Request.proper_iff, not_not, Http.authorization_eq_scheme_iff]
  · have hproper := h (forgetting α) _ (s.requests_forgetting ▸ List.mem_singleton_self _)
    exact Request.proper_iff.mp hproper hfallback
  · obtain ⟨n, hn⟩ := List.mem_iff_getElem?.mp hrequest
    obtain ⟨before, a, later, -, -, -, hproper⟩ := exists_use_not_proper_iff hn
    by_contra hbare
    exact h (hproper.mp hbare).1
  · cases token? with
    | none => simp
    | some token => simp [Credential.ofToken?_eq_some_iff]

/-- A store whose fallback has an empty token sends it. -/
theorem requests_of_empty_fallback :
    let s : Store := { baseUrl := ⟨"http://localhost"⟩, fallback := some ⟨""⟩ }
    let actions : List (Action Unit) := [.call "Ping" (.object []) (.ok (.object []))]
    (s.requests actions).map (fun request =>
      (request.credential, Http.authorization request.credential)) = [(some ⟨""⟩, "JWT ")] := by
  decide +kernel

end Store

end EntitySync
