import EntitySync.Proofs.Session

/-!
# Credentials of requests

The credential of a request is decided by the operations that were committed before it. The last one
on the session token counts: an overwrite with a token that is not empty gives the credential, and
after any other one the fallback is sent. Until there is one, the token of the first snapshot
counts.
-/

namespace EntitySync

/-- The credential that is left by operations that were committed from an initial snapshot. -/
def credentialAfter (fallback : Option Credential) (initial : Snapshot)
    (committed : List Operation) : Option Credential :=
  match Snapshot.lastOn Snapshot.tokenType committed with
  | some ⟨.overwrite, _, .string token⟩ => if token = "" then fallback else some ⟨token⟩
  | some _ => fallback
  | none =>
    match initial.get? Snapshot.tokenType with
    | some (.value (.string token)) => if token = "" then fallback else some ⟨token⟩
    | _ => fallback

/-- The reply to the call is an error, or is no instruction although one is needed. -/
def Action.Fails {α : Type} : Action α → Prop
  | .update _ => False
  | .call _ _ (.error _) => True
  | .call _ _ (.ok response) => ∃ fault, Instruction.ofJson response = .error fault
  | .callWith _ _ _ reply => ∃ e, reply = .error e

/-- The same use of a store with another reply. -/
def Action.withReply {α : Type} (reply : Reply) : Action α → Action α
  | .update i => .update i
  | .call endpoint body _ => .call endpoint body reply
  | .callWith endpoint body use _ => .callWith endpoint body use reply

/-! ### The token in a snapshot -/

lemma Snapshot.sessionToken?_eq_some_iff {s : Snapshot} {token : String} :
    s.sessionToken? = some token ↔
      s.get? Snapshot.tokenType = some (.value (.string token)) ∧ token ≠ "" := by
  unfold sessionToken?
  split
  next text hget =>
    simp only [hget, Option.some.injEq, Collection.value.injEq, Json.string.injEq]
    constructor
    · intro h
      split_ifs at h with htext
      exact ⟨Option.some.inj h, Option.some.inj h ▸ htext⟩
    · rintro ⟨rfl, htoken⟩
      rw [if_neg htoken]
  next hother =>
    constructor
    · rintro ⟨⟩
    · exact fun h => absurd h.1 (hother token)

namespace Store

variable {α : Type} {s t : Store} {a : Action α} {actions : List (Action α)} {request : Request}

lemma credential?_eq (s : Store) :
    s.credential? =
      match s.state.get? Snapshot.tokenType with
      | some (.value (.string token)) => if token = "" then s.fallback else some ⟨token⟩
      | _ => s.fallback := by
  unfold credential? Snapshot.sessionToken?
  cases s.state.get? Snapshot.tokenType with
  | none => rfl
  | some c =>
    cases c with
    | records => rfl
    | value v =>
      cases v with
      | string token => by_cases htoken : token = "" <;> simp [htoken, Credential.ofToken?]
      | _ => rfl

/-- Operations that lead from one snapshot to the other decide the credential. -/
lemma credential?_of_run {done : List Operation} (hrun : s.state.Run done t.state)
    (hfallback : t.fallback = s.fallback) :
    t.credential? = credentialAfter s.fallback s.state done := by
  rw [credential?_eq, credentialAfter, hfallback]
  cases hlast : Snapshot.lastOn Snapshot.tokenType done with
  | none =>
    rw [hrun.get?_of_forall_ne (Snapshot.lastOn_eq_none_iff.mp hlast)]
  | some o =>
    obtain ⟨htype, mid, next, hstep, hget⟩ := hrun.exists_last_step hlast
    rw [hget, ← htype]
    by_cases hverb : o.verb = .overwrite
    · rw [hstep.get?_of_overwrite hverb]
      obtain ⟨verb, entityType, target⟩ := o
      subst hverb
      cases target <;> rfl
    · obtain ⟨entries, hentries⟩ := hstep.exists_records hverb
      rw [hentries]
      obtain ⟨verb, entityType, target⟩ := o
      cases verb with
      | overwrite => exact absurd rfl hverb
      | _ => rfl

/-! ### Requests of a session -/

lemma requestsOf_cases (s : Store) (a : Action α) :
    s.requestsOf a = [] ∨ ∃ request, s.requestsOf a = [request] ∧
      request.credential = s.credential? := by
  cases a with
  | update => exact Or.inl rfl
  | call | callWith => exact Or.inr ⟨_, rfl, rfl⟩

/-- Every request is made by one of the uses. -/
lemma exists_use_of_request {n : ℕ} (h : (s.requests actions)[n]? = some request) :
    ∃ before a later, actions = before ++ a :: later ∧ (s.requests before).length = n ∧
      (s.after before).requestsOf a = [request] := by
  induction actions generalizing s n with
  | nil => simp at h
  | cons a actions ih =>
    rw [requests_cons] at h
    rcases s.requestsOf_cases a with hnone | ⟨first, hfirst, -⟩
    · rw [hnone, List.nil_append] at h
      obtain ⟨before, a', later, rfl, hn, hrequest⟩ := ih h
      exact ⟨a :: before, a', later, rfl, by simp [hnone, hn], by simpa using hrequest⟩
    · rw [hfirst] at h
      cases n with
      | zero =>
        obtain rfl : first = request := by simpa using h
        exact ⟨[], a, actions, rfl, rfl, hfirst⟩
      | succ n =>
        obtain ⟨before, a', later, rfl, hn, hrequest⟩ := ih (by simpa using h)
        exact ⟨a :: before, a', later, rfl, by simp [hfirst, hn], by simpa using hrequest⟩

lemma requestsOf_withReply (s : Store) (a : Action α) (reply : Reply) :
    s.requestsOf (a.withReply reply) = s.requestsOf a := by
  cases a <;> rfl

/-- A call that fails leaves the store as it was. -/
lemma afterUse_of_fails (s : Store) (h : a.Fails) : s.afterUse a = s := by
  obtain ⟨outcome, hrule, -⟩ := s.exists_run_perform a
  generalize s.afterUse a = next at hrule ⊢
  cases hrule with
  | update => exact h.elim
  | folded _ _ hdecode | rejected _ _ hdecode =>
    obtain ⟨fault, hfault⟩ := h
    cases hdecode.symm.trans hfault
  | unanswered | undecoded | handedOn | unhanded => rfl

lemma after_concat (s : Store) (before : List (Action α)) (a : Action α) :
    s.after (before ++ [a]) = (s.after before).afterUse a := by
  rw [after_append, after_cons, after_nil]

/-- Each request carries the credential that is decided by the operations committed before it. The
reply to a call does not matter to its own request, and a call that fails does not matter to the
requests after it. -/
theorem credential_of_requests (s : Store) (actions : List (Action α)) :
    (∀ (n : ℕ) (request : Request), (s.requests actions)[n]? = some request →
      ∃ before a later, actions = before ++ a :: later ∧ (s.requests before).length = n ∧
        (s.after before).requestsOf a = [request] ∧
        request.credential = credentialAfter s.fallback s.state (s.committed before)) ∧
    (∀ a reply, s.requests (actions ++ [a.withReply reply]) = s.requests (actions ++ [a])) ∧
    ∀ a later, a.Fails →
      (s.after (actions ++ [a])).requests later = (s.after actions).requests (α := α) later := by
  refine ⟨fun n request hrequest => ?_, fun a reply => ?_, fun a later hfails => ?_⟩
  · obtain ⟨before, a, later, hactions, hn, huse⟩ := exists_use_of_request hrequest
    refine ⟨before, a, later, hactions, hn, huse, ?_⟩
    have hcredential : request.credential = (s.after before).credential? := by
      rcases (s.after before).requestsOf_cases a with hnone | ⟨request', huse', hcredential⟩
      · cases hnone.symm.trans huse
      · obtain rfl : request' = request := by simpa using huse'.symm.trans huse
        exact hcredential
    rw [hcredential]
    exact credential?_of_run (s.run_committed before) (s.fallback_after before)
  · rw [requests_append, requests_append, requests_cons, requests_cons, requestsOf_withReply,
      requests_nil, requests_nil]
  · rw [after_concat, afterUse_of_fails _ hfails]

/-- A batch that fails behind the token commits it; a call without a reply changes nothing; an empty
token brings the fallback back. -/
example :
    let s : Store := { baseUrl := ⟨"http://localhost"⟩, fallback := some ⟨"configured"⟩ }
    let actions : List (Action Unit) := [
      .update { operations :=
        [⟨.overwrite, Snapshot.tokenType, .string "fresh"⟩, ⟨.add, "Event", .null⟩] },
      .call "ListEvents" .null (.error (.request "" .notWritable)),
      .callWith "ListEvents" .null (fun _ => ()) (.ok .null),
      .update { operations := [⟨.overwrite, Snapshot.tokenType, .string ""⟩] },
      .call "ListEvents" .null (.ok .null)]
    (s.requests actions).map Request.credential =
      [some ⟨"fresh"⟩, some ⟨"fresh"⟩, some ⟨"configured"⟩] := by
  decide +kernel

end Store

end EntitySync
