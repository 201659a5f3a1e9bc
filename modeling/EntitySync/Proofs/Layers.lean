import EntitySync.Config
import EntitySync.Proofs.Grammar

/-!
# Layers of the configuration

Every value of a configuration is taken from the highest layer that sets it, whatever the layers
set for the other values. There is no configuration exactly if the file is there but cannot be read
or sets no settings, or else if the environment sets a port that is none; the file is looked at
first.
-/

namespace EntitySync

/-! ### Layers -/

namespace Sourced

variable {α : Type} {layers : List (Source × Option α)} {v w : Sourced α}

/-- Of the layers, listed from the highest down, the first that sets a value sets this one. -/
inductive TakenFrom : List (Source × Option α) → Sourced α → Prop where
  | here (value : α) (source : Source) (lower : List (Source × Option α)) :
      TakenFrom ((source, some value) :: lower) ⟨value, source⟩
  | lower {lower : List (Source × Option α)} {v : Sourced α} (source : Source)
      (h : TakenFrom lower v) : TakenFrom ((source, none) :: lower) v

lemma TakenFrom.unique (hv : TakenFrom layers v) (hw : TakenFrom layers w) : v = w := by
  induction hv with
  | here value source lower =>
    cases hw
    rfl
  | lower source _ ih =>
    cases hw with
    | lower _ hw => exact ih hw

lemma takenFrom_ofLayers (default : α) (file environment : Option α) :
    TakenFrom [(.environment, environment), (.file, file), (.default, some default)]
      (ofLayers default file environment) := by
  cases environment with
  | some value => exact .here value _ _
  | none =>
    cases file with
    | some value => exact .lower _ (.here value _ _)
    | none => exact .lower _ (.lower _ (.here default _ _))

lemma takenFrom_ofOptionalLayers (file environment : Option α) :
    TakenFrom [(.environment, environment.map some), (.file, file.map some), (.default, some none)]
      (ofOptionalLayers file environment) :=
  takenFrom_ofLayers none _ _

/-- Without the layers, a value that may be missing is the first that is not. -/
lemma TakenFrom.value_eq_or {file environment : Option α} {v : Sourced (Option α)}
    (h : TakenFrom [(.environment, environment.map some), (.file, file.map some),
      (.default, some none)] v) : v.value = environment.or file := by
  rw [h.unique (takenFrom_ofOptionalLayers file environment)]
  cases environment <;> cases file <;> rfl

end Sourced

/-! ### Ports in texts -/

namespace Text

variable {cs : List Char} {n : ℕ}

lemma digitValue?_ten_eq_some_iff {c : Char} {d : ℕ} :
    digitValue? 10 c = some d ↔ c.isDigit = true ∧ d = c.toNat - '0'.toNat := by
  have hdigit : c.isDigit = true ↔ 48 ≤ c.toNat ∧ c.toNat ≤ 57 := by
    simp only [Char.isDigit, Bool.and_eq_true, decide_eq_true_eq, UInt32.le_iff_toNat_le]
    exact Iff.rfl
  have hzero : '0'.toNat = 48 := rfl
  rw [hdigit, hzero]
  simp only [digitValue?, Bool.and_eq_true, decide_eq_true_eq, Option.ite_none_right_eq_some,
    Option.some.injEq]
  split_ifs <;> omega

lemma digitsFrom?_ten_eq_some_iff {value : ℕ} :
    digitsFrom? 10 value cs = some n ↔
      (∀ c ∈ cs, c.isDigit = true) ∧ Nat.ofDigitChars 10 cs value = n := by
  induction cs generalizing value with
  | nil => simp [digitsFrom?, Nat.ofDigitChars]
  | cons c cs ih =>
    simp only [digitsFrom?, Option.bind_eq_some_iff, digitValue?_ten_eq_some_iff, ih,
      List.forall_mem_cons]
    constructor
    · rintro ⟨d, ⟨hc, rfl⟩, hcs, hvalue⟩
      exact ⟨⟨hc, hcs⟩, hvalue⟩
    · rintro ⟨⟨hc, hcs⟩, hvalue⟩
      exact ⟨_, ⟨hc, rfl⟩, hcs, hvalue⟩

lemma natural?_ten_eq_some_iff :
    natural? 10 cs = some n ↔
      cs ≠ [] ∧ (∀ c ∈ cs, c.isDigit = true) ∧ Nat.ofDigitChars 10 cs 0 = n := by
  cases cs with
  | nil => simp [natural?]
  | cons c cs => simp only [natural?, digitsFrom?_ten_eq_some_iff, ne_eq, reduceCtorEq,
      not_false_eq_true, true_and]

lemma word16?_eq_some_iff {w : UInt16} : word16? n = some w ↔ w.toNat = n := by
  have hw : w.toNat < 65536 := w.toNat_lt
  simp only [word16?, Option.ite_none_right_eq_some, Option.some.injEq]
  constructor
  · rintro ⟨hn, rfl⟩
    exact Nat.mod_eq_of_lt (Nat.lt_succ_of_le hn)
  · rintro rfl
    exact ⟨Nat.le_of_lt_succ hw, UInt16.ofNat_toNat⟩

/-- Without a sign in front there are digits exactly if the text is these, perhaps behind a sign. -/
lemma dropPlus_eq_iff {digits : List Char} (h : ∀ c ∈ digits, c.isDigit = true) :
    dropPlus cs = digits ↔ cs = digits ∨ cs = '+' :: digits := by
  constructor
  · rintro rfl
    unfold dropPlus
    split
    · exact Or.inr rfl
    · exact Or.inl rfl
  · rintro (rfl | rfl)
    · unfold dropPlus
      split
      · exact absurd (h '+' List.mem_cons_self) (by decide)
      · rfl
    · rfl

end Text

namespace Environment

variable {env : Environment} {text : String} {port : UInt16} {port? : Option UInt16}

/-- The text is one or more digits, perhaps behind a plus sign, and the port is their value. -/
def WritesPort (text : String) (port : UInt16) : Prop :=
  ∃ digits, digits ≠ [] ∧ (∀ c ∈ digits, c.isDigit = true) ∧
    (text.toList = digits ∨ text.toList = '+' :: digits) ∧
    Nat.ofDigitChars 10 digits 0 = port.toNat

lemma port?_eq_some_iff : Environment.port? text = some port ↔ WritesPort text port := by
  simp only [Environment.port?, Option.bind_eq_some_iff, Text.natural?_ten_eq_some_iff,
    Text.word16?_eq_some_iff]
  constructor
  · rintro ⟨n, ⟨hne, hdigits, rfl⟩, hport⟩
    exact ⟨_, hne, hdigits, (Text.dropPlus_eq_iff hdigits).mp rfl, hport.symm⟩
  · rintro ⟨digits, hne, hdigits, htext, hport⟩
    rw [(Text.dropPlus_eq_iff hdigits).mpr htext]
    exact ⟨_, ⟨hne, hdigits, rfl⟩, hport.symm⟩

/-- The port that the environment sets, if it sets one. -/
inductive SetsPort (env : Environment) : Option UInt16 → Prop where
  | unset (h : env.apiPort = none) : SetsPort env none
  | set {text : String} {port : UInt16} (htext : env.apiPort = some text)
      (hport : WritesPort text port) : SetsPort env (some port)

end Environment

/-! ### Files -/

/-- What a file sets: nothing if there is none, else the settings that it writes. -/
inductive FileText.Sets : FileText → Option FileSettings → Prop where
  | missing {fault : ReadFault} (h : fault.isMissing = true) : Sets (.error fault) none
  | settings {contents : String} {settings : FileSettings}
      (h : FileSettings.parse contents = .ok settings) : Sets (.ok contents) (some settings)

lemma FileText.Sets.unique {file : FileText} {found found' : Option FileSettings}
    (h : file.Sets found) (h' : file.Sets found') : found = found' := by
  cases h with
  | missing =>
    cases h'
    rfl
  | settings hparse =>
    cases h' with
    | settings hparse' => rw [Except.ok.inj (hparse.symm.trans hparse')]

namespace Config

variable {path : String} {file : FileText} {env : Environment} {e : ConfigError} {c : Config}
  {found : Option FileSettings} {port? : Option UInt16}

/-- Why there is no configuration: the file is there but cannot be read, or sets no settings, or
else the environment sets a port that is none. -/
inductive Refuses (path : String) : FileText → Environment → ConfigError → Prop where
  | notReadable {fault : ReadFault} (env : Environment) (h : fault.isMissing = false) :
      Refuses path (.error fault) env (.notReadable path fault)
  | notSettings {contents : String} {fault : SettingsFault} (env : Environment)
      (h : FileSettings.parse contents = .error fault) :
      Refuses path (.ok contents) env (.notSettings path fault)
  | notPort {file : FileText} {env : Environment} {found : Option FileSettings} {text : String}
      (hfile : file.Sets found) (htext : env.apiPort = some text)
      (hport : ∀ port, ¬ Environment.WritesPort text port) :
      Refuses path file env (.invalidValue "SLOTO_API_PORT" text)

/-- Each value is taken from the layers that can set it, of which only the file sets a location. The
file is named if there is one. -/
structure Resolves (path : String) (found : Option FileSettings) (env : Environment)
    (port? : Option UInt16) (c : Config) : Prop where
  baseUrl : c.baseUrl.TakenFrom [(.environment, env.baseUrl.map some),
    (.file, (found.getD {}).baseUrl.map some), (.default, some none)]
  location : c.location.TakenFrom [(.file, (found.getD {}).location),
    (.default, some ⟨"http:", "localhost", none⟩)]
  apiPort : c.apiPort.TakenFrom [(.environment, port?), (.file, (found.getD {}).apiPort),
    (.default, some 8000)]
  authToken : c.authToken.TakenFrom [(.environment, env.authToken.map some),
    (.file, (found.getD {}).authToken.map some), (.default, some none)]
  file : c.file = found.map fun _ => path

lemma Resolves.unique {c' : Config} (h : Resolves path found env port? c)
    (h' : Resolves path found env port? c') : c = c' := by
  obtain ⟨baseUrl, location, apiPort, authToken, file⟩ := c
  obtain ⟨baseUrl', location', apiPort', authToken', file'⟩ := c'
  obtain rfl : baseUrl = baseUrl' := h.baseUrl.unique h'.baseUrl
  obtain rfl : location = location' := h.location.unique h'.location
  obtain rfl : apiPort = apiPort' := h.apiPort.unique h'.apiPort
  obtain rfl : authToken = authToken' := h.authToken.unique h'.authToken
  obtain rfl : file = file' := h.file.trans h'.file.symm
  rfl

/-! ### Files and environment -/

lemma settings?_eq_ok_iff : settings? path file = .ok found ↔ file.Sets found := by
  unfold settings?
  constructor
  · intro h
    split at h
    next contents =>
      split at h
      next settings hparse =>
        obtain rfl := Except.ok.inj h
        exact .settings hparse
      next => cases h
    next fault =>
      split_ifs at h with hmissing
      obtain rfl := Except.ok.inj h
      exact .missing hmissing
  · rintro (hmissing | hparse)
    · simp only [hmissing, if_true]
    · simp only [hparse]

lemma environmentPort_eq_ok_iff : environmentPort env = .ok port? ↔ env.SetsPort port? := by
  unfold environmentPort
  constructor
  · intro h
    split at h
    next hunset =>
      obtain rfl := Except.ok.inj h
      exact .unset hunset
    next text htext =>
      split at h
      next port hport =>
        obtain rfl := Except.ok.inj h
        exact .set htext (Environment.port?_eq_some_iff.mp hport)
      next => cases h
  · rintro (hunset | ⟨htext, hport⟩)
    · simp only [hunset]
    · simp only [htext, Environment.port?_eq_some_iff.mpr hport]

lemma exists_load_eq_ok (path : String) (hfile : file.Sets found) (hport : env.SetsPort port?) :
    ∃ c, load path file env = .ok c ∧ Resolves path found env port? c := by
  have hsettings : settings? path file = .ok found := settings?_eq_ok_iff.mpr hfile
  have henvironment : environmentPort env = .ok port? := environmentPort_eq_ok_iff.mpr hport
  have hlocation := Sourced.takenFrom_ofLayers ({} : PageLocation) (found.getD {}).location none
  refine ⟨_, by rw [load, hsettings, henvironment]; rfl, ?_⟩
  exact {
    baseUrl := Sourced.takenFrom_ofOptionalLayers _ _
    location := by
      cases hlocation with
      | lower _ hlocation => exact hlocation
    apiPort := Sourced.takenFrom_ofLayers _ _ _
    authToken := Sourced.takenFrom_ofOptionalLayers _ _
    file := rfl }

lemma load_eq_ok_iff :
    load path file env = .ok c ↔ ∃ found port?, file.Sets found ∧ env.SetsPort port? ∧
      Resolves path found env port? c := by
  constructor
  · intro h
    obtain ⟨found, hsettings, hrest⟩ := bind_eq_ok_iff.mp h
    obtain ⟨port?, henvironment, -⟩ := bind_eq_ok_iff.mp hrest
    have hfile := settings?_eq_ok_iff.mp hsettings
    have hport := environmentPort_eq_ok_iff.mp henvironment
    obtain ⟨c', hload, hresolves⟩ := exists_load_eq_ok path hfile hport
    obtain rfl : c = c' := Except.ok.inj (h.symm.trans hload)
    exact ⟨found, port?, hfile, hport, hresolves⟩
  · rintro ⟨found, port?, hfile, hport, hresolves⟩
    obtain ⟨c', hload, hresolves'⟩ := exists_load_eq_ok path hfile hport
    rw [hload, hresolves.unique hresolves']

/-- An empty token in the environment hides the one in the file, which keeps its port. -/
example :
    (load "c" (.ok "auth_token: abc\napi_port: 9") { authToken := some "" }).toOption.map
      (fun c => (c.authToken, c.apiPort, c.file)) =
        some (⟨some "", .environment⟩, ⟨9, .file⟩, some "c") := by
  decide +kernel

end Config

end EntitySync
