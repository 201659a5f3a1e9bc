import EntitySync.Proofs.Decoding
import EntitySync.Proofs.Frame
import EntitySync.Proofs.Json.Printed
import EntitySync.Proofs.Machine
import EntitySync.Proofs.TokenHistory

/-!
# Logging in

A login prints a token or fails, and the value in the response decides which. A token is handed out
by an instruction whose operations are all accepted, which reports no errors, and whose last
operation on the session token puts one in place. Everything else is a denial, for the first of four
reasons.
-/

namespace EntitySync

open CommandLine

/-! ### Errors of an instruction -/

/-- The part of a value that an instruction takes its errors from. -/
def Json.errorsPart? : Json → Option Json
  | .object members => members.lookup "errors"
  | .array parts => parts[1]?
  | _ => none

namespace Instruction

variable {i : Instruction} {v : Json}

/-- What is reported is the part for the errors, unless it is missing or null. -/
lemma reported?_of_ofJson (h : ofJson v = .ok i) :
    (v.errorsPart? = none ∨ v.errorsPart? = some .null) ∧ i.reported? = none ∨
      ∃ e ≠ .null, v.errorsPart? = some e ∧ i.reported? = some e := by
  have herrors : (v.errorsPart? = none ∨ v.errorsPart? = some .null) ∧ i.errors = none ∨
      ∃ e ≠ .null, v.errorsPart? = some e ∧ i.errors = some e := by
    cases v with
    | object => exact (ofJson_object_eq_ok_iff_hasParts.mp h).errors
    | array => exact (ofJson_array_eq_ok_iff_hasParts.mp h).2.errors
    | _ => cases h
  unfold reported?
  rcases herrors with ⟨hpart, hnone⟩ | ⟨e, hne, hpart, hsome⟩
  · exact Or.inl ⟨hpart, by rw [hnone]⟩
  · refine Or.inr ⟨e, hne, hpart, ?_⟩
    rw [hsome]
    cases e with
    | null => exact absurd rfl hne
    | _ => rfl

lemma reported?_eq_none_iff (h : ofJson v = .ok i) :
    i.reported? = none ↔ v.errorsPart? = none ∨ v.errorsPart? = some .null := by
  rcases reported?_of_ofJson h with ⟨hpart, hnone⟩ | ⟨e, hne, hpart, hsome⟩
  · simp [hpart, hnone]
  · simp [hpart, hsome, hne]

lemma reported?_eq_some_iff {e : Json} (h : ofJson v = .ok i) :
    i.reported? = some e ↔ v.errorsPart? = some e ∧ e ≠ .null := by
  rcases reported?_of_ofJson h with ⟨hpart | hpart, hnone⟩ | ⟨e', hne, hpart, hsome⟩
  · simp [hpart, hnone]
  · simp only [hpart, hnone, Option.some.injEq, reduceCtorEq, false_iff]
    exact fun hnull => hnull.2 hnull.1.symm
  · simp only [hpart, hsome, Option.some.injEq, iff_self_and]
    exact fun heq => heq ▸ hne

end Instruction

/-! ### The session token -/

namespace Snapshot

variable {t : Snapshot} {ops : List Operation} {token : String}

/-- A batch hands out a token exactly if its last operation on it is an overwrite with a text that
is not empty. -/
lemma Run.sessionToken?_eq_some_iff (h : Run empty ops t) :
    t.sessionToken? = some token ↔
      lastOn tokenType ops = some ⟨.overwrite, tokenType, .string token⟩ ∧ token ≠ "" := by
  have hmissing : empty.get? tokenType = none := rfl
  rw [Snapshot.sessionToken?_eq_some_iff, h.get?_eq_string_iff, hmissing]
  simp

end Snapshot

/-! ### Answers to a login -/

namespace Json

open Snapshot (lastOn tokenType)

/-- The value is an instruction that hands out the token. -/
inductive HandsOut (v : Json) (token : String) : Prop where
  | intro {i : Instruction} {s : Snapshot} (hdecode : Instruction.ofJson v = .ok i)
      (hfold : Snapshot.empty.applyAll i.operations = .ok s)
      (herrors : v.errorsPart? = none ∨ v.errorsPart? = some .null)
      (hlast : lastOn tokenType i.operations = some ⟨.overwrite, tokenType, .string token⟩)
      (htoken : token ≠ "")

/-- Why the value hands out no token, as it is reported: it is no instruction; or else one of the
operations is rejected; or else there are errors, of which a text stands for itself; or else no
token is left. -/
inductive Denies (endpoint : String) (v : Json) : String → Prop where
  | noInstruction {fault : ShapeError} (hdecode : Instruction.ofJson v = .error fault) :
      Denies endpoint v
        s!"response from endpoint '{endpoint}' is not an instruction: {fault.message}"
  | rejected {i : Instruction} {e : FoldError} (hdecode : Instruction.ofJson v = .ok i)
      (hfold : Snapshot.empty.applyAll i.operations = .error e) : Denies endpoint v e.message
  | errorText {i : Instruction} {s : Snapshot} {text : String}
      (hdecode : Instruction.ofJson v = .ok i)
      (hfold : Snapshot.empty.applyAll i.operations = .ok s)
      (herrors : v.errorsPart? = some (.string text)) :
      Denies endpoint v s!"Rejected by server: {text}"
  | errorValue {i : Instruction} {s : Snapshot} {errors : Json}
      (hdecode : Instruction.ofJson v = .ok i)
      (hfold : Snapshot.empty.applyAll i.operations = .ok s)
      (herrors : v.errorsPart? = some errors) (hnull : errors ≠ .null)
      (htext : ∀ text, errors ≠ .string text) :
      Denies endpoint v s!"Rejected by server: {errors.compact}"
  | noToken {i : Instruction} {s : Snapshot} (hdecode : Instruction.ofJson v = .ok i)
      (hfold : Snapshot.empty.applyAll i.operations = .ok s)
      (herrors : v.errorsPart? = none ∨ v.errorsPart? = some .null)
      (hlast : ∀ token ≠ "",
        lastOn tokenType i.operations ≠ some ⟨.overwrite, tokenType, .string token⟩) :
      Denies endpoint v "Rejected by server: server did not return a session token"

variable {v : Json} {token text endpoint : String}

/-- Every value hands out a token or denies one. -/
lemma handsOut_or_denies (v : Json) (endpoint : String) :
    (∃ token, v.HandsOut token) ∨ ∃ text, v.Denies endpoint text := by
  cases hdecode : Instruction.ofJson v with
  | error fault => exact Or.inr ⟨_, .noInstruction hdecode⟩
  | ok i =>
    cases hfold : Snapshot.empty.applyAll i.operations with
    | error e => exact Or.inr ⟨_, .rejected hdecode hfold⟩
    | ok s =>
      rcases Instruction.reported?_of_ofJson hdecode with ⟨herrors, -⟩ | ⟨e, hnull, herrors, -⟩
      · by_cases hlast : ∃ token ≠ "",
            lastOn tokenType i.operations = some ⟨.overwrite, tokenType, .string token⟩
        · obtain ⟨token, htoken, hlast⟩ := hlast
          exact Or.inl ⟨token, .intro hdecode hfold herrors hlast htoken⟩
        · refine Or.inr ⟨_, .noToken hdecode hfold herrors fun token htoken heq => ?_⟩
          exact hlast ⟨token, htoken, heq⟩
      · by_cases htext : ∃ text, e = .string text
        · obtain ⟨text, rfl⟩ := htext
          exact Or.inr ⟨_, .errorText hdecode hfold herrors⟩
        · exact Or.inr ⟨_, .errorValue hdecode hfold herrors hnull (not_exists.mp htext)⟩

end Json

/-! ### Runs -/

namespace CommandLine.LoginArguments

variable {store : Store} {endpoint token text : String} {v : Json} {i : Instruction} {s : Snapshot}

/-- After a batch that is accepted, errors come before the token. -/
lemma tokenReport_receive_of_applyAll (hdecode : Instruction.ofJson v = .ok i)
    (hfold : store.state.applyAll i.operations = .ok s) :
    tokenReport (store.receive endpoint (.ok v)) =
      match i.reported?, s.sessionToken? with
      | some errors, _ => .failure (.rejected errors)
      | none, some token => .line token
      | none, none => .failure .noToken := by
  have hreceive : store.receive endpoint (.ok v) = (.ok ⟨v, i⟩, { store with state := s }) := by
    simp only [Store.receive, hdecode, Store.update, hfold]
  rw [hreceive]
  rfl

variable (hstate : store.state = .empty)

include hstate

lemma tokenReport_of_handsOut (h : v.HandsOut token) :
    tokenReport (store.receive endpoint (.ok v)) = .line token := by
  obtain ⟨hdecode, hfold, herrors, hlast, htoken⟩ := h
  have hrun := Snapshot.applyAll_eq_ok_iff.mp hfold
  rw [tokenReport_receive_of_applyAll hdecode (hstate ▸ hfold),
    (Instruction.reported?_eq_none_iff hdecode).mpr herrors,
    hrun.sessionToken?_eq_some_iff.mpr ⟨hlast, htoken⟩]

lemma tokenReport_of_denies (h : v.Denies endpoint text) :
    ∃ e, tokenReport (store.receive endpoint (.ok v)) = .failure e ∧ e.message = text := by
  cases h with
  | noInstruction hdecode =>
    refine ⟨.dispatch (.decode endpoint _), ?_, rfl⟩
    simp only [Store.receive, hdecode, tokenReport]
  | @rejected i e hdecode hfold =>
    refine ⟨.dispatch (.fold e), ?_, rfl⟩
    simp only [Store.receive, hdecode, Store.update, hstate, hfold, tokenReport]
  | @errorText i s text hdecode hfold herrors =>
    refine ⟨.rejected (.string text), ?_, rfl⟩
    rw [tokenReport_receive_of_applyAll hdecode (hstate ▸ hfold),
      (Instruction.reported?_eq_some_iff hdecode).mpr ⟨herrors, by simp⟩]
  | @errorValue i s errors hdecode hfold herrors hnull htext =>
    refine ⟨.rejected errors, ?_, ?_⟩
    · rw [tokenReport_receive_of_applyAll hdecode (hstate ▸ hfold),
        (Instruction.reported?_eq_some_iff hdecode).mpr ⟨herrors, hnull⟩]
    · cases errors with
      | string text => exact absurd rfl (htext text)
      | _ => rfl
  | @noToken i s hdecode hfold herrors hlast =>
    have hrun := Snapshot.applyAll_eq_ok_iff.mp hfold
    have hnone : s.sessionToken? = none := by
      rw [Option.eq_none_iff_forall_ne_some]
      intro token htoken
      obtain ⟨hoverwrite, hne⟩ := hrun.sessionToken?_eq_some_iff.mp htoken
      exact hlast token hne hoverwrite
    refine ⟨.noToken, ?_, rfl⟩
    rw [tokenReport_receive_of_applyAll hdecode (hstate ▸ hfold),
      (Instruction.reported?_eq_none_iff hdecode).mpr herrors, hnone]

end CommandLine.LoginArguments

namespace Machine

variable {machine : Machine} {words : List String} {endpoint token text : String} {v : Json}

/-- The words ask for a login at an endpoint under a given password. The request is sent, and the
server answers it with a value, under any status. -/
inductive LogsIn (machine : Machine) (words : List String) (endpoint : String) (v : Json) :
    Prop where
  | intro {path : Option String} {username password : String} {c : Config} {base : BaseUrl}
      {message : Http.Message} {status : ℕ} {bytes : List UInt8}
      (hwords : Arguments.ofWords words =
        .ok ⟨path, some (.login { username, password := some password, endpoint })⟩)
      (hconfig : machine.config path = .ok c) (hbase : c.effectiveBaseUrl = .ok base)
      (hmessage : Http.message ⟨base.endpointUrl endpoint, LoginArguments.body username password,
        none⟩ = .ok message)
      (hserver : machine.server message = .response status bytes)
      (hparse : Json.parseBytes bytes = .ok v)

lemma LogsIn.exists_run_eq (h : machine.LogsIn words endpoint v) :
    ∃ store : Store, store.state = .empty ∧
      machine.run words =
        .ofReport (LoginArguments.tokenReport (store.receive endpoint (.ok v))) := by
  obtain @⟨path, username, password, c, base, message, status, bytes, hwords, hconfig, hbase,
    hmessage, hserver, hparse⟩ := h
  let a : LoginArguments := { username, password := some password, endpoint }
  let store : Store := { baseUrl := base }
  have hstore : configuredStore c none = .ok store :=
    configuredStore_eq_ok_iff.mpr ⟨base, hbase, rfl⟩
  have hrequest : Http.message (store.request endpoint (LoginArguments.body username password)) =
      .ok message := hmessage
  refine ⟨store, rfl, run_eq_ofReport hwords hconfig fun _ => ?_⟩
  change a.run machine.host.post c password = _
  simp [LoginArguments.run, hstore, Store.callEndpoint, post_eq_reply hrequest, hserver,
    Http.reply, hparse, Except.mapError, a]

lemma LogsIn.run_of_handsOut (h : machine.LogsIn words endpoint v) (htoken : v.HandsOut token) :
    machine.run words = ⟨0, token ++ "\n", ""⟩ := by
  obtain ⟨store, hstate, hrun⟩ := h.exists_run_eq
  rw [hrun, LoginArguments.tokenReport_of_handsOut hstate htoken]
  rfl

lemma LogsIn.run_of_denies (h : machine.LogsIn words endpoint v) (htext : v.Denies endpoint text) :
    machine.run words = ⟨1, "", s!"Error: {text}\n"⟩ := by
  obtain ⟨store, hstate, hrun⟩ := h.exists_run_eq
  obtain ⟨e, hreport, rfl⟩ := LoginArguments.tokenReport_of_denies hstate htext
  rw [hrun, hreport]
  rfl

/-- A login ends in one of two ways. -/
lemma LogsIn.run_cases (h : machine.LogsIn words endpoint v) :
    (∃ token, v.HandsOut token ∧ machine.run words = ⟨0, token ++ "\n", ""⟩) ∨
      ∃ text, v.Denies endpoint text ∧ machine.run words = ⟨1, "", s!"Error: {text}\n"⟩ := by
  rcases v.handsOut_or_denies endpoint with ⟨token, htoken⟩ | ⟨text, htext⟩
  · exact Or.inl ⟨token, htoken, h.run_of_handsOut htoken⟩
  · exact Or.inr ⟨text, htext, h.run_of_denies htext⟩

/-- A login prints a token exactly if the value in the response hands it out. In every other case it
fails without output, and the error is the reason why the value denies a token. -/
theorem login_iff_handsOut (h : machine.LogsIn words endpoint v) :
    (∀ token, (machine.run words).exitCode = 0 ∧ (machine.run words).output = token ++ "\n" ↔
      v.HandsOut token) ∧
    ((∀ token, ¬ v.HandsOut token) → (machine.run words).exitCode = 1 ∧
      (machine.run words).output = "" ∧ ∃ text, v.Denies endpoint text) ∧
    ∀ text, machine.run words = ⟨1, "", s!"Error: {text}\n"⟩ ↔ v.Denies endpoint text := by
  refine ⟨fun token => ⟨?_, fun htoken => ?_⟩, fun hnone => ?_,
    fun text => ⟨fun hrun => ?_, h.run_of_denies⟩⟩
  · rintro ⟨hcode, houtput⟩
    rcases h.run_cases with ⟨token', htoken, hrun⟩ | ⟨text, -, hrun⟩
    · rw [hrun] at houtput
      exact (String.append_left_inj "\n").mp houtput ▸ htoken
    · rw [hrun] at hcode
      cases hcode
  · rw [h.run_of_handsOut htoken]
    exact ⟨rfl, rfl⟩
  · rcases h.run_cases with ⟨token, htoken, -⟩ | ⟨text, htext, hrun⟩
    · exact absurd htoken (hnone token)
    · rw [hrun]
      exact ⟨rfl, rfl, text, htext⟩
  · rcases h.run_cases with ⟨token, -, hrun'⟩ | ⟨text', htext, hrun'⟩
    · cases congrArg Ending.exitCode (hrun.symm.trans hrun')
    · have herror := congrArg Ending.errorOutput (hrun.symm.trans hrun')
      have hsame : text = text' :=
        (String.append_right_inj "Error: ").mp ((String.append_left_inj "\n").mp herror)
      exact hsame ▸ htext

/-- Under an error status, a token is put in place twice, with errors that are null. -/
theorem login_twice :
    let batch : Json := .array [
      .array [.string "OVERWRITE", .string Snapshot.tokenType, .string "first"],
      .array [.string "OVERWRITE", .string Snapshot.tokenType, .string "second"]]
    let machine : Machine :=
      { holding [] with
        environment name := if name = Environment.baseUrlName then some "http://[::1]" else none
        server _ := .response 500 (Utf8.encode (Json.array [batch, .null]).pretty) }
    let words := ["login", "-u", "n", "-p", "w"]
    machine.LogsIn words "AuthenticateUser" (.array [batch, .null]) ∧
      (machine.run words).exitCode = 0 ∧ (machine.run words).output = "second\n" := by
  intro batch machine words
  have hsent : (machine.config none).toOption.any (fun c =>
      c.effectiveBaseUrl.toOption.any fun base =>
        (Http.message ⟨base.endpointUrl "AuthenticateUser", LoginArguments.body "n" "w",
          none⟩).toOption.any fun _ => true) = true := by
    decide +kernel
  obtain ⟨c, hconfig, hsent⟩ := exists_eq_ok_of_any hsent
  obtain ⟨base, hbase, hsent⟩ := exists_eq_ok_of_any hsent
  obtain ⟨message, hmessage, -⟩ := exists_eq_ok_of_any hsent
  have hreadable : (Json.array [batch, .null]).Readable Json.deepest := by
    simp [batch, Json.deepest]
  have hlogin : machine.LogsIn words "AuthenticateUser" (.array [batch, .null]) :=
    .intro rfl hconfig hbase hmessage rfl hreadable.parse_pretty.1
  have htoken : (Json.array [batch, .null]).HandsOut "second" :=
    .intro rfl rfl (Or.inr rfl) rfl (by decide)
  exact ⟨hlogin, ((login_iff_handsOut hlogin).1 "second").mpr htoken⟩

end Machine

end EntitySync
