import EntitySync.CommandLine.Run
import EntitySync.Proofs.Grammar
import EntitySync.Proofs.Json.Bytes

/-!
# Runs in memory

A machine is a host that keeps everything in memory, so that a run of the program on it is a
function of the words of the command line. Two kinds of run are singled out: those that fold an
instruction from a file, and those that fold the instruction in the response of a server. How they
end is a function of the texts that they read.
-/

namespace EntitySync

open CommandLine

/-! ### Texts -/

/-- The text is JSON, and its value decodes to the given one. -/
def ReadsAs {α : Type} (decode : Json → Decoded α) (text : String) (a : α) : Prop :=
  ∃ v, Json.parse text = .ok v ∧ decode v = .ok a

lemma exists_eq_ok_of_any {ε α : Type} {x : Except ε α} {p : α → Bool}
    (h : x.toOption.any p = true) : ∃ a, x = .ok a ∧ p a = true := by
  cases x with
  | error e => cases h
  | ok a => exact ⟨a, rfl, h⟩

/-- The state that a fold starts with: the one in a text, or the empty one. -/
inductive StartsAs : Option String → Snapshot → Prop where
  | empty : StartsAs none .empty
  | text {text : String} {s : Snapshot} (h : ReadsAs Snapshot.ofJson text s) :
      StartsAs (some text) s

lemma decodedFile_eq_ok_iff {α : Type} {decode : Json → Decoded α} {path text : String} {a : α} :
    decodedFile decode path (.ok text) = .ok a ↔ ReadsAs decode text a := by
  simp only [decodedFile, jsonInFile, bind_eq_ok_iff, mapError_eq_ok_iff, ReadsAs]

lemma initialState_eq_ok_iff {path : String} {state : Option String} {s : Snapshot} :
    initialState (state.map fun text => (path, .ok text)) = .ok s ↔ StartsAs state s := by
  constructor
  · intro h
    cases state with
    | none =>
      cases h
      exact .empty
    | some text => exact .text (decodedFile_eq_ok_iff.mp h)
  · intro h
    cases h with
    | empty => rfl
    | text h => exact decodedFile_eq_ok_iff.mpr h

/-! ### Machines -/

/-- What a run finds: variables, files, a line of input, and a server. -/
structure Machine where
  environment : String → Option String := fun _ => none
  files : String → Except ReadFault (List UInt8)
  typed : FileText := .ok ""
  server : Http.Message → Http.Outcome := fun _ => .unreachable

/-- What a run has written. -/
structure Transcript where
  output : String := ""
  errorOutput : String := ""

/-- What is left of a run. -/
structure Ending where
  exitCode : UInt8
  output : String
  errorOutput : String
deriving DecidableEq

namespace Ending

/-- A report is written, and the program exits. -/
def ofReport (r : Report) : Ending := ⟨r.exitCode, r.output, r.errorOutput⟩

/-- The snapshot that a batch leads to is written, and the error if it stops early. -/
def ofFold : Except FoldError Snapshot → Ending
  | .ok t => ⟨0, t.toJson.pretty ++ "\n", ""⟩
  | .error e => ⟨1, e.applied.toJson.pretty ++ "\n", s!"Error: {e.message}\n"⟩

/-- Nothing is printed but an error. -/
def Failed (ending : Ending) : Prop := ending.exitCode = 1 ∧ ending.output = ""

lemma ofReport_foldReport (s : Snapshot) (ops : List Operation) :
    ofReport (foldReport s ops) = ofFold (s.applyAll ops) := by
  rw [foldReport]
  cases s.applyAll ops with
  | ok t => rfl
  | error e => rfl

end Ending

namespace Machine

variable (machine : Machine)

def fileText (path : String) : FileText := (machine.files path).bind FileText.ofBytes

def host : Host (StateM Transcript) where
  environmentVariable? name := pure (machine.environment name)
  fileText path := pure (machine.fileText path)
  readLine := pure machine.typed
  write text := modify fun t => { t with output := t.output ++ text }
  writeError text := modify fun t => { t with errorOutput := t.errorOutput ++ text }
  wire message := pure (machine.server message)

/-- Run the program on the words of a command line. -/
def run (words : List String) : Ending :=
  let (exitCode, written) := Id.run (StateT.run (machine.host.run words) {})
  ⟨exitCode, written.output, written.errorOutput⟩

/-- A machine with the given files, by path and text. -/
def holding (texts : List (String × String)) : Machine where
  files path :=
    match texts.lookup path with
    | some text => .ok (Utf8.encode text)
    | none => .error .notFound

/-- The path of the configuration file if none is given. -/
def defaultPath : String :=
  Config.defaultPath (machine.environment "XDG_CONFIG_HOME") (machine.environment "HOME")

/-- The variables that set a value of the configuration. -/
def settings : Environment where
  baseUrl := machine.environment Environment.baseUrlName
  apiPort := machine.environment Environment.apiPortName
  authToken := machine.environment Environment.authTokenName

/-- The configuration of a run, the path of whose file may be given. -/
def config (path : Option String) : Except ConfigError Config :=
  let path := path.getD machine.defaultPath
  Config.load path (machine.fileText path) machine.settings

/-- A machine without a configuration file has a configuration. -/
lemma exists_config_holding {texts : List (String × String)}
    (h : texts.lookup "./sloto/config.yaml" = none) :
    ∃ c, (holding texts).config none = .ok c := by
  have hpath : Config.defaultPath none none = "./sloto/config.yaml" := by decide +kernel
  have hmissing : (holding texts).fileText "./sloto/config.yaml" = .error .notFound := by
    simp only [fileText, holding, h]
    rfl
  have hdefault : (holding texts).defaultPath = "./sloto/config.yaml" := hpath
  rw [config, Option.getD_none, hdefault, hmissing]
  exact ⟨_, rfl⟩

variable {machine} {words : List String} {path instruction : String} {state : Option String}
  {c : Config} {r : Report}

/-- A command that gives a report and writes nothing itself ends as that report. -/
lemma run_eq_ofReport_of_defaultPath {a : Arguments} (hwords : Arguments.ofWords words = .ok a)
    (hconfig : machine.config a.config = .ok c)
    (hcommand : machine.host.runCommand c machine.defaultPath a.command = pure r) :
    machine.run words = .ofReport r := by
  -- All that is asked before the command runs is answered without a trace in the transcript.
  have hdefaultPath : machine.host.defaultPath = pure machine.defaultPath := rfl
  have hsettings : machine.host.environment = pure machine.settings := rfl
  have hfile : ∀ path, machine.host.fileText path = pure (machine.fileText path) := fun _ => rfl
  have harguments : machine.host.runArguments a = pure r := by
    rw [config] at hconfig
    simp only [Host.runArguments, hdefaultPath, hsettings, hfile, pure_bind, hconfig, hcommand]
  have hrun : machine.host.run words = (do
      machine.host.write r.output
      machine.host.writeError r.errorOutput
      return r.exitCode) := by
    rw [Host.run, hwords]
    simp only [harguments, pure_bind]
  rw [run, hrun]
  simp [host, Ending.ofReport]

/-- Most commands do not look at the path at which a configuration is expected. -/
lemma run_eq_ofReport {a : Arguments} (hwords : Arguments.ofWords words = .ok a)
    (hconfig : machine.config a.config = .ok c)
    (hcommand : ∀ defaultPath, machine.host.runCommand c defaultPath a.command = pure r) :
    machine.run words = .ofReport r :=
  run_eq_ofReport_of_defaultPath hwords hconfig (hcommand machine.defaultPath)

/-- What is sent is answered by the server. -/
lemma post_eq_reply {request : Request} {message : Http.Message}
    (h : Http.message request = .ok message) :
    machine.host.post request =
      pure (Http.reply request message.url (machine.server message)) := by
  rw [Host.post, Http.post, h]
  rfl

/-! ### Folding an instruction from a file -/

/-- Folding a file asks for the files and reports on what they hold. -/
lemma runApply_eq (a : ApplyArguments) :
    machine.host.runApply a = pure (applyReport
      (a.state.map fun path => (path, machine.fileText path))
      (a.instruction, machine.fileText a.instruction)) := by
  obtain ⟨instruction, state⟩ := a
  cases state <;> rfl

lemma fileText_of_files {text : String} (h : machine.files path = .ok (Utf8.encode text)) :
    machine.fileText path = .ok text := by
  rw [fileText, h]
  exact FileText.ofBytes_encode text

/-- The words ask for the instruction in a file to be folded into the state in another, or into the
empty one, and the files hold the given texts. -/
inductive FoldsFiles (machine : Machine) (words : List String) (state : Option String)
    (instruction : String) : Prop where
  | intro {path : Option String} {a : ApplyArguments} {c : Config}
      (hwords : Arguments.ofWords words = .ok ⟨path, some (.apply a)⟩)
      (hconfig : machine.config path = .ok c)
      (hstate : a.state.map machine.files = state.map (.ok ∘ Utf8.encode))
      (hinstruction : machine.files a.instruction = .ok (Utf8.encode instruction))

lemma FoldsFiles.exists_run_eq (h : machine.FoldsFiles words state instruction) :
    ∃ statePath instructionPath, machine.run words = .ofReport (applyReport
      (state.map fun text => (statePath, .ok text)) (instructionPath, .ok instruction)) := by
  obtain ⟨hwords, hconfig, hstate, hinstruction⟩ := h
  rename_i path a c
  refine ⟨a.state.getD "", a.instruction, run_eq_ofReport hwords hconfig fun _ => ?_⟩
  have hnamed : (a.state.map fun path => (path, machine.fileText path)) =
      state.map fun text => (a.state.getD "", .ok text) := by
    cases ha : a.state with
    | none =>
      cases state with
      | none => rfl
      | some text => simp [ha] at hstate
    | some statePath =>
      cases state with
      | none => simp [ha] at hstate
      | some text =>
        have hfile : machine.files statePath = .ok (Utf8.encode text) := by simpa [ha] using hstate
        simp [fileText_of_files hfile]
  change machine.host.runApply a = _
  rw [runApply_eq, hnamed, fileText_of_files hinstruction]

/-- A run on files ends as the fold does. -/
lemma FoldsFiles.run_eq_ofFold {s : Snapshot} {i : Instruction}
    (h : machine.FoldsFiles words state instruction) (hs : StartsAs state s)
    (hi : ReadsAs Instruction.ofJson instruction i) :
    machine.run words = .ofFold (s.applyAll i.operations) := by
  obtain ⟨statePath, path, hrun⟩ := h.exists_run_eq
  rw [hrun, applyReport, initialState_eq_ok_iff.mpr hs, decodedFile_eq_ok_iff.mpr hi,
    ← Ending.ofReport_foldReport]
  rfl

/-- The words ask for a call whose response is folded; the call is sent, and the response has the
given text as its body. -/
inductive Calls (machine : Machine) (words : List String) (status : ℕ) (response : String) :
    Prop where
  | intro {path : Option String} {a : CallArguments} {c : Config} {store : Store} {body : Json}
      {message : Http.Message}
      (hwords : Arguments.ofWords words = .ok ⟨path, some (.call a)⟩) (hraw : a.raw = false)
      (hconfig : machine.config path = .ok c) (hprepare : a.prepare c = .ok (store, body))
      (hmessage : Http.message (store.request a.endpoint body) = .ok message)
      (hserver : machine.server message = .response status (Utf8.encode response))

/-- A command starts with an empty store on the configured base URL. -/
lemma configuredStore_eq_ok_iff {credential : Option Credential} {store : Store} :
    configuredStore c credential = .ok store ↔ ∃ base, c.effectiveBaseUrl = .ok base ∧
      { baseUrl := base, fallback := credential } = store := by
  unfold configuredStore
  cases c.effectiveBaseUrl <;> simp

lemma prepare_eq_ok_iff {a : CallArguments} {store : Store} {body : Json} :
    a.prepare c = .ok (store, body) ↔ Json.parse a.body = .ok body ∧
      ∃ base, c.effectiveBaseUrl = .ok base ∧
        { baseUrl := base, fallback := a.credential? c } = store := by
  simp only [CallArguments.prepare, bind_eq_ok_iff, mapError_eq_ok_iff, pure_eq_ok_iff,
    configuredStore_eq_ok_iff, Prod.mk.injEq]
  constructor
  · rintro ⟨_, hbody, _, hstore, rfl, rfl⟩
    exact ⟨hbody, hstore⟩
  · rintro ⟨hbody, hstore⟩
    exact ⟨_, hbody, _, hstore, rfl, rfl⟩

/-- A call starts with the empty state. -/
lemma state_of_prepare {a : CallArguments} {store : Store} {body : Json}
    (h : a.prepare c = .ok (store, body)) : store.state = .empty := by
  obtain ⟨-, base, -, rfl⟩ := prepare_eq_ok_iff.mp h
  rfl

lemma Calls.exists_run_eq {status : ℕ} {response : String}
    (h : machine.Calls words status response) :
    ∃ (store : Store) (endpoint : String) (request : Request), store.state = .empty ∧
      machine.run words = .ofReport (CallArguments.stateReport (store.receive endpoint
        ((Json.parse response).mapError fun e =>
          .notJson request.url status (.syntaxError e)))) := by
  obtain ⟨hwords, hraw, hconfig, hprepare, hmessage, hserver⟩ := h
  rename_i path a c store body message
  refine ⟨store, a.endpoint, store.request a.endpoint body, state_of_prepare hprepare,
    run_eq_ofReport hwords hconfig fun _ => ?_⟩
  change a.run machine.host.post c = _
  simp [CallArguments.run, hprepare, hraw, Store.callEndpoint, post_eq_reply hmessage, hserver,
    Http.reply, Json.parse]

/-- A call ends as the fold of the instruction in the response does, whatever the status. -/
lemma Calls.run_eq_ofFold {status : ℕ} {response : String} {i : Instruction}
    (h : machine.Calls words status response) (hi : ReadsAs Instruction.ofJson response i) :
    machine.run words = .ofFold (Snapshot.empty.applyAll i.operations) := by
  obtain ⟨store, endpoint, request, hstate, hrun⟩ := h.exists_run_eq
  obtain ⟨v, hparse, hdecode⟩ := hi
  rw [hrun, hparse, Except.mapError, Store.receive, hdecode]
  simp only [Store.update, hstate]
  cases Snapshot.empty.applyAll i.operations with
  | ok t => rfl
  | error e => rfl

end Machine

end EntitySync
