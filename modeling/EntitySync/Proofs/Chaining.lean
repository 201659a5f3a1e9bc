import EntitySync.Proofs.Json.Parsed
import EntitySync.Proofs.Machine
import EntitySync.Proofs.Printable
import EntitySync.Proofs.Resumption

/-!
# Folds one after the other

What a fold prints can be the state that the next one starts with. The state comes back from the
output as it was, so the two folds together do what a fold of both batches does.
-/

namespace EntitySync

variable {state instruction : String} {s t : Snapshot} {i : Instruction}

/-- All numbers of the JSON value in the text are integers. -/
def IntegralText (text : String) : Prop :=
  ∀ v, Json.parse text = .ok v → v.Integral

lemma ReadsAs.exists_readable {α : Type} {decode : Json → Decoded α} {text : String} {a : α}
    (h : ReadsAs decode text a) (hintegral : IntegralText text) :
    ∃ v, decode v = .ok a ∧ v.Readable Json.deepest := by
  obtain ⟨v, hparse, hdecode⟩ := h
  exact ⟨v, hdecode, Json.readable_of_parse hparse (hintegral v hparse)⟩

/-- What is printed of a value is read as that value. -/
lemma Json.Readable.readsAs_pretty {α : Type} {decode : Json → Decoded α} {v : Json} {a : α}
    (h : v.Readable Json.deepest) (hdecode : decode v = .ok a) : ReadsAs decode v.pretty a :=
  ⟨v, h.parse_pretty.1, hdecode⟩

lemma Json.Readable.integralText_pretty {v : Json} (h : v.Readable Json.deepest) :
    IntegralText v.pretty := by
  intro w hw
  rw [h.parse_pretty.1] at hw
  cases hw
  exact h.integral

namespace Snapshot

/-- A state that is folded from texts is read back from what is printed of it. -/
lemma readsAs_pretty (hs : ReadsAs ofJson state s) (hi : ReadsAs Instruction.ofJson instruction i)
    (hstate : IntegralText state) (hinstruction : IntegralText instruction)
    (hrun : s.Run i.operations t) : ReadsAs ofJson (t.toJson.pretty ++ "\n") t := by
  obtain ⟨v, hs, hv⟩ := hs.exists_readable hstate
  obtain ⟨w, hi, hw⟩ := hi.exists_readable hinstruction
  -- An instruction spends three of its levels above a target, a state only one above a collection.
  have htargets : ∀ o ∈ i.operations, o.target.Readable (125 + 1) := by
    intro o ho
    have htarget : o.target.Readable 124 := Instruction.readable_target hi hw ho
    exact htarget.mono (by decide)
  have hprintable : t.toJson.Readable (125 + 2) := hrun.readable (readable_of_ofJson hs hv) htargets
  have hregular : t.Regular := (regular_of_ofJson hs).run hrun
  exact ⟨t.toJson, hprintable.parse_pretty.2, ofJson_toJson_eq_ok_iff.mpr hregular⟩

end Snapshot

namespace Machine

/-- A fold that succeeds prints a state that the next fold can start with. The next fold then does
what a fold of both batches does: it prints the same and exits in the same way, and its error is the
same but for the place, which counts from the end of the first batch. -/
theorem run_of_chained {first second whole : Machine} {words words' words'' : List String}
    {a b ab : String} {ia ib iab : Instruction}
    (hs : ReadsAs Snapshot.ofJson state s) (ha : ReadsAs Instruction.ofJson a ia)
    (hb : ReadsAs Instruction.ofJson b ib) (hab : ReadsAs Instruction.ofJson ab iab)
    (hoperations : iab.operations = ia.operations ++ ib.operations)
    (hstate : IntegralText state) (hinstruction : IntegralText a)
    (hfirst : first.FoldsFiles words (some state) a) (hexit : (first.run words).exitCode = 0)
    (hsecond : second.FoldsFiles words' (some (first.run words).output) b)
    (hwhole : whole.FoldsFiles words'' (some state) ab) :
    ∃ t, s.applyAll ia.operations = .ok t ∧
      ReadsAs Snapshot.ofJson (first.run words).output t ∧
      (second.run words').output = (whole.run words'').output ∧
      (second.run words').exitCode = (whole.run words'').exitCode ∧
      ((∃ u, t.applyAll ib.operations = .ok u ∧ s.applyAll iab.operations = .ok u ∧
          (second.run words').errorOutput = "" ∧ (whole.run words'').errorOutput = "") ∨
        ∃ e, t.applyAll ib.operations = .error e ∧
          s.applyAll iab.operations = .error (e.shift ia.operations.length) ∧
          (second.run words').errorOutput = s!"Error: {e.message}\n" ∧
          (whole.run words'').errorOutput =
            s!"Error: {(e.shift ia.operations.length).message}\n") := by
  have hrun := hfirst.run_eq_ofFold (.text hs) ha
  cases hfold : s.applyAll ia.operations with
  | error e =>
    rw [hrun, hfold] at hexit
    cases hexit
  | ok t =>
    have houtput : (first.run words).output = t.toJson.pretty ++ "\n" := by
      rw [hrun, hfold, Ending.ofFold]
    have hreads : ReadsAs Snapshot.ofJson (first.run words).output t := by
      rw [houtput]
      exact Snapshot.readsAs_pretty hs ha hstate hinstruction (Snapshot.applyAll_eq_ok_iff.mp hfold)
    have hboth : s.applyAll iab.operations =
        (t.applyAll ib.operations).mapError (FoldError.shift ia.operations.length) := by
      rw [hoperations, Snapshot.applyAll_append, hfold]
      rfl
    refine ⟨t, rfl, hreads, ?_⟩
    rw [hsecond.run_eq_ofFold (.text hreads) hb, hwhole.run_eq_ofFold (.text hs) hab, hboth]
    cases t.applyAll ib.operations with
    | ok u => exact ⟨rfl, rfl, Or.inl ⟨u, rfl, rfl, rfl, rfl⟩⟩
    | error e => exact ⟨rfl, rfl, Or.inr ⟨e, rfl, rfl, rfl, rfl⟩⟩

/-- The second batch fails behind an overwrite. The state has the greatest integer, and the first
batch brings a string that is printed with an escape. -/
theorem run_of_chained_failing :
    let greatest : Number := .integer 18446744073709551615 (by decide)
    let state : Json := .object [("Log", .array [.number greatest])]
    let merge : Operation := ⟨.merge, "Log", .array [.string "x\x07"]⟩
    let overwrite : Operation := ⟨.overwrite, "Log", .bool true⟩
    let add : Operation := ⟨.add, "Log", .null⟩
    let batch (ops : List Operation) : Json := .array [.array (ops.map fun o =>
      .array [.string o.verb.word, .string o.entityType, o.target])]
    let files := [("s.json", state.pretty), ("a.json", (batch [merge]).pretty),
      ("b.json", (batch [overwrite, add]).pretty),
      ("ab.json", (batch [merge, overwrite, add]).pretty)]
    let first := (holding files).run ["apply", "a.json", "--state", "s.json"]
    let second := (holding (("o.json", first.output) :: files)).run
      ["apply", "--state=o.json", "b.json"]
    let whole := (holding files).run ["apply", "ab.json", "--state", "s.json"]
    first.exitCode = 0 ∧ second.output = whole.output ∧ second.exitCode = whole.exitCode ∧
      ∃ e : FoldError, e.index = 1 ∧ second.errorOutput = s!"Error: {e.message}\n" ∧
        whole.errorOutput = s!"Error: {(e.shift 1).message}\n" := by
  intro greatest state merge overwrite add batch files first second whole
  -- The texts are read as the values that they are printed from.
  have hstate : state.Readable Json.deepest := by
    simp [state, greatest, Json.deepest, Entries.Ascending]
  have hmerge : (batch [merge]).Readable Json.deepest := by
    simp [batch, merge, Json.deepest]
  have hrest : (batch [overwrite, add]).Readable Json.deepest := by
    simp [batch, overwrite, add, Json.deepest]
  have hall : (batch [merge, overwrite, add]).Readable Json.deepest := by
    simp [batch, merge, overwrite, add, Json.deepest]
  obtain ⟨s, hdecode, ⟨u, hsucceeds⟩, applied, source, hfails⟩ :
      ∃ s, Snapshot.ofJson state = .ok s ∧ (∃ u, s.applyAll [merge] = .ok u) ∧
        ∃ applied source, s.applyAll [merge, overwrite, add] = .error ⟨2, applied, source⟩ :=
    ⟨_, rfl, ⟨_, rfl⟩, _, _, rfl⟩
  have hs : ReadsAs Snapshot.ofJson state.pretty s := hstate.readsAs_pretty hdecode
  have ha : ReadsAs Instruction.ofJson (batch [merge]).pretty { operations := [merge] } :=
    hmerge.readsAs_pretty rfl
  have hb : ReadsAs Instruction.ofJson (batch [overwrite, add]).pretty
      { operations := [overwrite, add] } := hrest.readsAs_pretty rfl
  have hab : ReadsAs Instruction.ofJson (batch [merge, overwrite, add]).pretty
      { operations := [merge, overwrite, add] } := hall.readsAs_pretty rfl
  -- The runs read these texts.
  obtain ⟨c, hconfig⟩ : ∃ c, (holding files).config none = .ok c := exists_config_holding rfl
  obtain ⟨c', hconfig'⟩ : ∃ c, (holding (("o.json", first.output) :: files)).config none = .ok c :=
    exists_config_holding rfl
  have hfirst : (holding files).FoldsFiles ["apply", "a.json", "--state", "s.json"]
      (some state.pretty) (batch [merge]).pretty := .intro rfl hconfig rfl rfl
  have hsecond : (holding (("o.json", first.output) :: files)).FoldsFiles
      ["apply", "--state=o.json", "b.json"] (some first.output)
      (batch [overwrite, add]).pretty := .intro rfl hconfig' rfl rfl
  have hwhole : (holding files).FoldsFiles ["apply", "ab.json", "--state", "s.json"]
      (some state.pretty) (batch [merge, overwrite, add]).pretty := .intro rfl hconfig rfl rfl
  have hexit : ((holding files).run ["apply", "a.json", "--state", "s.json"]).exitCode = 0 := by
    rw [hfirst.run_eq_ofFold (.text hs) ha, hsucceeds, Ending.ofFold]
  obtain ⟨t, -, -, houtput, hcode, hends⟩ := run_of_chained hs ha hb hab rfl
    hstate.integralText_pretty hmerge.integralText_pretty hfirst hexit hsecond hwhole
  refine ⟨hexit, houtput, hcode, ?_⟩
  rcases hends with ⟨_, -, hok, -⟩ | ⟨e, -, herror, herrorOutput, herrorOutput'⟩
  · cases hfails.symm.trans hok
  · have hindex : 2 = 1 + e.index :=
      congrArg FoldError.index (Except.error.inj (hfails.symm.trans herror))
    exact ⟨e, by omega, herrorOutput, herrorOutput'⟩

end Machine

end EntitySync
