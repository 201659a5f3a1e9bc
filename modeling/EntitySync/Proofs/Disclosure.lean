import EntitySync.Proofs.Machine

/-!
# What the shown configuration tells

A configuration is shown with the layers that its values come from, and with the values but for the
token. As text it tells of the token from which layer it is and whether there is one, and no more;
as JSON it tells nothing of it. So two runs that show configurations which differ in their tokens
only, end alike.
-/

namespace EntitySync

open CommandLine

namespace Config

variable {c c' : Config}

/-- The configurations differ in nothing but the token and where it comes from. -/
structure Alike (c c' : Config) : Prop where
  baseUrl : c.baseUrl = c'.baseUrl
  location : c.location = c'.location
  apiPort : c.apiPort = c'.apiPort
  file : c.file = c'.file

/-- The tokens come from the same layer, and both are set or none is. -/
structure TokensAlike (c c' : Config) : Prop where
  source : c.authToken.source = c'.authToken.source
  isSome : c.authToken.value.isSome = c'.authToken.value.isSome

/-- The base URL in use does not depend on the token, nor does the error if there is none. -/
lemma Alike.effectiveBaseUrl_eq (h : c.Alike c') : c.effectiveBaseUrl = c'.effectiveBaseUrl := by
  rw [effectiveBaseUrl, effectiveBaseUrl, h.baseUrl, h.location, h.apiPort]

lemma Alike.toJson_eq (h : c.Alike c') : c.toJson = c'.toJson := by
  rw [toJson, toJson, h.baseUrl, h.location, h.apiPort, h.file]

end Config

namespace CommandLine

variable {c c' : Config} {defaultPath : String} {format : OutputFormat}

/-- The lines of a token tell its layer and whether it is set. -/
lemma sourcedText_token_eq_iff {token token' : Sourced (Option String)} :
    sourcedText "auth_token" tokenText token = sourcedText "auth_token" tokenText token' ↔
      token.source = token'.source ∧ token.value.isSome = token'.value.isSome := by
  have hshown : ∀ token : Sourced (Option String),
      sourcedText "auth_token" tokenText token =
        sourcedText "auth_token" (fun set : Bool => if set then "(set)" else "(not set)")
          ⟨token.value.isSome, token.source⟩ := fun _ => rfl
  rw [hshown, hshown]
  generalize token.value.isSome = set, token'.value.isSome = set'
  generalize token.source = source, token'.source = source'
  cases set <;> cases set' <;> cases source <;> cases source' <;> decide +kernel

lemma configText_eq_iff (h : c.Alike c') :
    configText c defaultPath = configText c' defaultPath ↔ c.TokensAlike c' := by
  have hfile : configFileText c defaultPath = configFileText c' defaultPath := by
    rw [configFileText, configFileText, h.file]
  have heffective : effectiveText c = effectiveText c' := by
    rw [effectiveText, effectiveText, h.effectiveBaseUrl_eq]
  unfold configText
  rw [hfile, heffective, h.baseUrl, h.location, h.apiPort]
  -- The lines of the token are the last ones, and all lines above them agree.
  rw [String.append_right_inj]
  refine sourcedText_token_eq_iff.trans ⟨?_, ?_⟩
  · rintro ⟨hsource, hisSome⟩
    exact ⟨hsource, hisSome⟩
  · rintro ⟨hsource, hisSome⟩
    exact ⟨hsource, hisSome⟩

/-- As text the token is told by its layer and by whether it is set, as JSON by nothing. -/
lemma ofReport_configReport_eq_iff (h : c.Alike c') :
    Ending.ofReport (configReport c defaultPath format) =
        Ending.ofReport (configReport c' defaultPath format) ↔
      (format = .text → c.TokensAlike c') := by
  cases format with
  | text =>
    refine ⟨fun hending _ => ?_, fun htokens => ?_⟩
    · exact (configText_eq_iff h).mp (congrArg Ending.output hending)
    · rw [configReport, configReport, (configText_eq_iff h).mpr (htokens rfl)]
  | json =>
    rw [configReport, configReport, h.toJson_eq]
    exact iff_of_true rfl (fun hformat => by cases hformat)

end CommandLine

namespace Machine

variable {machine : Machine} {words : List String} {format : OutputFormat} {c c' : Config}

/-- The words ask for the configuration in a format, and the machine has the given one. -/
inductive Shows (machine : Machine) (words : List String) (format : OutputFormat) (c : Config) :
    Prop where
  | intro {path : Option String}
      (hwords : Arguments.ofWords words = .ok ⟨path, some (.showConfig format)⟩)
      (hconfig : machine.config path = .ok c)

lemma Shows.run_eq (h : machine.Shows words format c) :
    machine.run words = .ofReport (configReport c machine.defaultPath format) := by
  obtain ⟨hwords, hconfig⟩ := h
  exact run_eq_ofReport_of_defaultPath hwords hconfig rfl

/-- Of two configurations that differ in the token only, the same is written in a format, whatever
the path at which a file is expected: as JSON always, and as text exactly if the tokens come from
the same layer and both are set or none is. So it is with all that two runs leave which show such
configurations. -/
theorem shown_eq_iff (h : c.Alike c') (defaultPath : String) (format : OutputFormat) :
    (Ending.ofReport (configReport c defaultPath format) =
        Ending.ofReport (configReport c' defaultPath format) ↔
      (format = .text → c.TokensAlike c')) ∧
    ∀ (machine machine' : Machine) (words words' : List String),
      machine.Shows words format c → machine'.Shows words' format c' →
      machine.defaultPath = defaultPath → machine'.defaultPath = defaultPath →
      (machine.run words = machine'.run words' ↔ (format = .text → c.TokensAlike c')) := by
  refine ⟨ofReport_configReport_eq_iff h, ?_⟩
  rintro machine machine' words words' hshows hshows' rfl hpath
  rw [hshows.run_eq, hshows'.run_eq, hpath]
  exact ofReport_configReport_eq_iff h

/-- Two tokens from the environment look alike as text, but a token does not look like none. -/
theorem shown_eq_environment :
    let config (token : Sourced (Option String)) : Config :=
      { baseUrl := ⟨none, .default⟩, location := ⟨{}, .default⟩,
        apiPort := ⟨BaseUrl.defaultApiPort, .default⟩, authToken := token, file := none }
    let machine (token : Option String) : Machine :=
      { holding [] with
        environment name := if name = Environment.authTokenName then token else none }
    let words := ["config", "show"]
    (machine (some "first")).Shows words .text (config ⟨some "first", .environment⟩) ∧
      (machine (some "first")).run words = (machine (some "second")).run words ∧
      (machine (some "first")).run words ≠ (machine none).run words := by
  intro config machine words
  have hfirst : (machine (some "first")).Shows words .text
      (config ⟨some "first", .environment⟩) := .intro rfl rfl
  have hsecond : (machine (some "second")).Shows words .text
      (config ⟨some "second", .environment⟩) := .intro rfl rfl
  have hnone : (machine none).Shows words .text (config ⟨none, .default⟩) := .intro rfl rfl
  have halike : ∀ token token', (config token).Alike (config token') :=
    fun _ _ => ⟨rfl, rfl, rfl, rfl⟩
  refine ⟨hfirst, ?_, fun hsame => ?_⟩
  · exact ((shown_eq_iff (halike _ _) _ .text).2 _ _ words words hfirst hsecond rfl rfl).mpr
      fun _ => ⟨rfl, rfl⟩
  · have htokens := ((shown_eq_iff (halike _ _) _ .text).2 _ _ words words hfirst hnone
      rfl rfl).mp hsame rfl
    cases htokens.source

end Machine

end EntitySync
