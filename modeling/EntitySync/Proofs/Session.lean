import EntitySync.Proofs.LongestRun
import EntitySync.Store

/-!
# Sessions

A session is the use that is made of a store: updates with instructions and calls of endpoints, each
call with the reply that the transport gives to it. Rules say what a single use does: the decoded
reply of a plain call commits the longest part of its batch that runs, as an update does, and all
other replies commit nothing. A session does what the rules say, one use after the other, and makes
one request for each call. So the snapshot of a store is the fold of what was committed.
-/

namespace EntitySync

/-- One use of a store. A call comes with the reply that the transport gives to it. -/
inductive Action (α : Type) where
  | update (i : Instruction)
  | call (endpoint : String) (body : Json) (reply : Reply)
  | callWith (endpoint : String) (body : Json) (use : Json → α) (reply : Reply)

/-- The operations that an action brings, if it brings an instruction. -/
def Action.batch {α : Type} : Action α → List Operation
  | .update i => i.operations
  | .call _ _ (.ok response) =>
    match Instruction.ofJson response with
    | .ok i => i.operations
    | .error _ => []
  | .call _ _ (.error _) => []
  | .callWith _ _ _ _ => []

/-- What a use of a store gives back. -/
inductive Outcome (α : Type) where
  | updated (result : Except FoldError Unit)
  | called (result : Except DispatchError Answer)
  | handedOn (result : Except DispatchError α)

/-- A transport with one reply to whatever it is asked, which keeps the requests. -/
def answering (reply : Reply) (request : Request) : StateM (List Request) Reply := fun sent =>
  (reply, sent ++ [request])

namespace Store

variable {α : Type} {s t next : Store} {a : Action α} {actions : List (Action α)}

/-! ### Using a store -/

/-- Use the store once. -/
def perform (s : Store) : Action α → StateM (List Request) (Outcome α × Store)
  | .update i =>
    let (result, next) := s.update i
    return (.updated result, next)
  | .call endpoint body reply => do
    let (result, next) ← s.callEndpoint (answering reply) endpoint body
    return (.called result, next)
  | .callWith endpoint body use reply => do
    return (.handedOn (← s.callEndpointWith (answering reply) endpoint body use), s)

/-- Use the store several times, one after the other. -/
def performAll (s : Store) : List (Action α) → StateM (List Request) (List (Outcome α) × Store)
  | [] => return ([], s)
  | a :: actions => do
    let (outcome, next) ← s.perform a
    let (outcomes, last) ← next.performAll actions
    return (outcome :: outcomes, last)

/-! ### Rules -/

/-- What a use of the store gives back, and the store after it. -/
inductive Rule (s : Store) : Action α → Outcome α → Store → Prop where
  | update {i : Instruction} {result : Except FoldError Unit} {t : Snapshot}
      (hfolds : s.state.Folds i.operations result t) :
      Rule s (.update i) (.updated result) { s with state := t }
  | unanswered (endpoint : String) (body : Json) (e : TransportError) :
      Rule s (.call endpoint body (.error e)) (.called (.error (.transport e))) s
  | undecoded {response : Json} {fault : ShapeError} (endpoint : String) (body : Json)
      (hdecode : Instruction.ofJson response = .error fault) :
      Rule s (.call endpoint body (.ok response)) (.called (.error (.decode endpoint fault))) s
  | folded {response : Json} {i : Instruction} {t : Snapshot} (endpoint : String) (body : Json)
      (hdecode : Instruction.ofJson response = .ok i)
      (hfolds : s.state.Folds i.operations (.ok ()) t) :
      Rule s (.call endpoint body (.ok response)) (.called (.ok ⟨response, i⟩))
        { s with state := t }
  | rejected {response : Json} {i : Instruction} {e : FoldError} {t : Snapshot}
      (endpoint : String) (body : Json) (hdecode : Instruction.ofJson response = .ok i)
      (hfolds : s.state.Folds i.operations (.error e) t) :
      Rule s (.call endpoint body (.ok response)) (.called (.error (.fold e)))
        { s with state := t }
  | handedOn (endpoint : String) (body : Json) (use : Json → α) (response : Json) :
      Rule s (.callWith endpoint body use (.ok response)) (.handedOn (.ok (use response))) s
  | unhanded (endpoint : String) (body : Json) (use : Json → α) (e : TransportError) :
      Rule s (.callWith endpoint body use (.error e)) (.handedOn (.error (.transport e))) s

/-- The requests that a use of the store makes. -/
def requestsOf (s : Store) : Action α → List Request
  | .update _ => []
  | .call endpoint body _ | .callWith endpoint body _ _ =>
    [⟨s.baseUrl.endpointUrl endpoint, body, s.credential?⟩]

/-- The rules, one use after the other, with all that is given back and all requests. -/
inductive Session :
    Store → List (Action α) → List (Outcome α) → List Request → Store → Prop where
  | nil (s : Store) : Session s [] [] [] s
  | cons {s next last : Store} {a : Action α} {outcome : Outcome α} {actions : List (Action α)}
      {outcomes : List (Outcome α)} {requests : List Request} (hrule : s.Rule a outcome next)
      (hrest : Session next actions outcomes requests last) :
      Session s (a :: actions) (outcome :: outcomes) (s.requestsOf a ++ requests) last

/-! ### One use -/

/-- An update folds the operations of the instruction and touches nothing but the snapshot. -/
lemma exists_folds_update (s : Store) (i : Instruction) :
    ∃ t, s.state.Folds i.operations (s.update i).1 t ∧ (s.update i).2 = { s with state := t } := by
  unfold update
  cases h : s.state.applyAll i.operations with
  | ok t => exact ⟨t, Snapshot.folds_ok_iff.mpr h, rfl⟩
  | error e => exact ⟨e.applied, Snapshot.folds_error_iff.mpr ⟨h, rfl⟩, rfl⟩

lemma rule_update (s : Store) (i : Instruction) :
    s.Rule (α := α) (.update i) (.updated (s.update i).1) (s.update i).2 := by
  obtain ⟨t, hfolds, hnext⟩ := s.exists_folds_update i
  rw [hnext]
  exact .update hfolds

lemma rule_receive (s : Store) (endpoint : String) (body : Json) (reply : Reply) :
    s.Rule (α := α) (.call endpoint body reply) (.called (s.receive endpoint reply).1)
      (s.receive endpoint reply).2 := by
  unfold receive
  cases reply with
  | error e => exact .unanswered endpoint body e
  | ok response =>
    cases hdecode : Instruction.ofJson response with
    | error fault => simpa only [hdecode] using .undecoded endpoint body hdecode
    | ok i =>
      obtain ⟨t, hfolds, hnext⟩ := s.exists_folds_update i
      cases hupdate : s.update i with
      | mk result next =>
        simp only [hdecode, hupdate] at hfolds hnext ⊢
        subst hnext
        cases result with
        | ok => exact .folded endpoint body hdecode hfolds
        | error e => exact .rejected endpoint body hdecode hfolds

/-- The store after one use. -/
def afterUse (s : Store) (a : Action α) : Store :=
  ((s.perform a).run []).1.2

/-- A use of the store follows a rule and makes its requests, whatever was sent before. -/
lemma exists_run_perform (s : Store) (a : Action α) :
    ∃ outcome, s.Rule a outcome (s.afterUse a) ∧
      ∀ sent, (s.perform a).run sent = ((outcome, s.afterUse a), sent ++ s.requestsOf a) := by
  cases a with
  | update i =>
    refine ⟨_, s.rule_update i, fun sent => ?_⟩
    rw [requestsOf, List.append_nil]
    rfl
  | call endpoint body reply =>
    exact ⟨_, s.rule_receive endpoint body reply, fun sent => rfl⟩
  | callWith endpoint body use reply =>
    cases reply with
    | error e => exact ⟨_, .unhanded endpoint body use e, fun sent => rfl⟩
    | ok response => exact ⟨_, .handedOn endpoint body use response, fun sent => rfl⟩

/-! ### Many uses -/

/-- What the uses give back, from the first on. -/
def outcomes (s : Store) (actions : List (Action α)) : List (Outcome α) :=
  ((s.performAll actions).run []).1.1

/-- The store after the uses. -/
def after (s : Store) (actions : List (Action α)) : Store :=
  ((s.performAll actions).run []).1.2

/-- The requests that the transport receives, the first one first. -/
def requests (s : Store) (actions : List (Action α)) : List Request :=
  ((s.performAll actions).run []).2

lemma run_performAll_cons (s : Store) (a : Action α) (actions : List (Action α))
    (sent : List Request) :
    (s.performAll (a :: actions)).run sent =
      let ((outcome, next), sent) := (s.perform a).run sent
      let ((outcomes, last), sent) := (next.performAll actions).run sent
      ((outcome :: outcomes, last), sent) := rfl

/-- Requests are added to those sent before, which change nothing else. -/
lemma run_performAll (s : Store) (actions : List (Action α)) (sent : List Request) :
    (s.performAll actions).run sent =
      ((s.outcomes actions, s.after actions), sent ++ s.requests actions) := by
  induction actions generalizing s sent with
  | nil => exact congrArg _ (List.append_nil sent).symm
  | cons a actions ih =>
    obtain ⟨outcome, -, hfirst⟩ := s.exists_run_perform a
    rw [outcomes, after, requests, run_performAll_cons, run_performAll_cons, hfirst, hfirst]
    simp only [ih, List.append_assoc, List.nil_append]

@[simp] lemma after_nil (s : Store) : s.after ([] : List (Action α)) = s := rfl

@[simp] lemma requests_nil (s : Store) : s.requests ([] : List (Action α)) = [] := rfl

@[simp] lemma after_cons (s : Store) (a : Action α) (actions : List (Action α)) :
    s.after (a :: actions) = (s.afterUse a).after actions := by
  obtain ⟨outcome, -, hfirst⟩ := s.exists_run_perform a
  rw [after, run_performAll_cons, hfirst]
  simp only [run_performAll]

@[simp] lemma requests_cons (s : Store) (a : Action α) (actions : List (Action α)) :
    s.requests (a :: actions) = s.requestsOf a ++ (s.afterUse a).requests actions := by
  obtain ⟨outcome, -, hfirst⟩ := s.exists_run_perform a
  rw [requests, run_performAll_cons, hfirst]
  simp only [run_performAll, List.nil_append]

lemma after_append (s : Store) (done rest : List (Action α)) :
    s.after (done ++ rest) = (s.after done).after rest := by
  induction done generalizing s with
  | nil => rfl
  | cons a done ih => simp [ih]

lemma requests_append (s : Store) (done rest : List (Action α)) :
    s.requests (done ++ rest) = s.requests done ++ (s.after done).requests rest := by
  induction done generalizing s with
  | nil => rfl
  | cons a done ih => simp [ih]

/-- The uses of a store form a session. -/
lemma session (s : Store) (actions : List (Action α)) :
    s.Session actions (s.outcomes actions) (s.requests actions) (s.after actions) := by
  induction actions generalizing s with
  | nil => exact .nil s
  | cons a actions ih =>
    obtain ⟨outcome, hrule, hfirst⟩ := s.exists_run_perform a
    have houtcomes : s.outcomes (a :: actions) = outcome :: (s.afterUse a).outcomes actions := by
      rw [outcomes, run_performAll_cons, hfirst]
      simp only [run_performAll]
    rw [houtcomes, requests_cons, after_cons]
    exact .cons hrule (ih _)

/-! ### Committed operations -/

/-- The operations that the uses commit: of each batch those before its failing one. -/
def committed (s : Store) : List (Action α) → List Operation
  | [] => []
  | a :: actions => s.state.accepted a.batch ++ (s.afterUse a).committed actions

lemma Rule.run_accepted {outcome : Outcome α} (h : s.Rule a outcome next) :
    s.state.Run (s.state.accepted a.batch) next.state := by
  have hnone : s.state.accepted [] = [] := rfl
  cases h with
  | update hfolds => exact hfolds.run_accepted
  | folded _ _ hdecode hfolds | rejected _ _ hdecode hfolds =>
    simpa only [Action.batch, hdecode] using hfolds.run_accepted
  | undecoded _ _ hdecode =>
    simp only [Action.batch, hdecode, hnone]
    exact .nil _
  | unanswered | handedOn | unhanded => exact .nil _

/-- A use of the store touches nothing but its snapshot. -/
lemma Rule.eq_with_state {outcome : Outcome α} (h : s.Rule a outcome next) :
    next = { s with state := next.state } := by
  cases h <;> rfl

/-- What a use leaves is decided by the operations that it brings. -/
lemma afterUse_congr (s : Store) {a a' : Action α} (h : a.batch = a'.batch) :
    s.afterUse a = s.afterUse a' := by
  obtain ⟨_, hrule, -⟩ := s.exists_run_perform a
  obtain ⟨_, hrule', -⟩ := s.exists_run_perform a'
  have hrun := hrule.run_accepted
  rw [h] at hrun
  rw [hrule.eq_with_state, hrule'.eq_with_state, hrun.unique hrule'.run_accepted]

lemma fallback_after (s : Store) (actions : List (Action α)) :
    (s.after actions).fallback = s.fallback := by
  induction actions generalizing s with
  | nil => rfl
  | cons a actions ih =>
    obtain ⟨outcome, hrule, -⟩ := s.exists_run_perform a
    rw [after_cons, ih, hrule.eq_with_state]

/-- The snapshot of a store is the fold of what was committed. -/
lemma run_committed (s : Store) (actions : List (Action α)) :
    s.state.Run (s.committed actions) (s.after actions).state := by
  induction actions generalizing s with
  | nil => exact .nil _
  | cons a actions ih =>
    obtain ⟨outcome, hrule, -⟩ := s.exists_run_perform a
    rw [after_cons, committed, Snapshot.run_append_iff]
    exact ⟨_, hrule.run_accepted, ih _⟩

/-- Uses of a store follow the rules one by one, with one request for each call. The snapshot at the
end is the fold of what was committed. A use leaves what the operations that it brings make of the
store; what else an instruction carries does not matter. -/
theorem session_applyAll_committed (s : Store) (actions : List (Action α)) :
    s.Session actions (s.outcomes actions) (s.requests actions) (s.after actions) ∧
    s.state.applyAll (s.committed actions) = .ok (s.after actions).state ∧
    (∀ i i' : Instruction, i.operations = i'.operations → s.update i = s.update i') ∧
    ∀ a a' : Action α, a.batch = a'.batch → s.afterUse a = s.afterUse a' := by
  refine ⟨s.session actions, Snapshot.applyAll_eq_ok_iff.mpr (s.run_committed actions), ?_,
    fun a a' => s.afterUse_congr⟩
  intro i i' h
  rw [update, update, h]

end Store

end EntitySync
