import EntitySync.Proofs.Grammar

/-!
# Which values are instructions

The two ways to write an instruction and the two ways to write an operation, without the decoders:
which parts may be missing, which may be null, and how many there may be. A value is accepted
exactly if it is written so, and what it is read as is decided part by part.
-/

namespace EntitySync

variable {v : Json}

/-- Every element has a counterpart exactly if there is a list of counterparts. -/
lemma exists_forall₂_iff {α β : Type} {R : α → β → Prop} {as : List α} :
    (∃ bs, List.Forall₂ R as bs) ↔ ∀ a ∈ as, ∃ b, R a b := by
  induction as with
  | nil => simp
  | cons a as ih =>
    rw [List.forall_mem_cons, ← ih]
    constructor
    · rintro ⟨_, _ | ⟨hhead, htail⟩⟩
      exact ⟨⟨_, hhead⟩, _, htail⟩
    · rintro ⟨⟨b, hhead⟩, bs, htail⟩
      exact ⟨b :: bs, .cons hhead htail⟩

lemma Decode.exists_part_iff {α : Type} {decode : Json → Decoded α} {default : α}
    {part : Option Json} :
    (∃ a, Part decode default part a) ↔ ∀ v ∈ part, ∃ a, decode v = .ok a := by
  cases part with
  | none => simp [part_none_iff]
  | some v => simp [part_some_iff]

/-! ### Operations -/

namespace Operation

/-- The values that are accepted as operations: an object with two texts and a target of any kind,
or the list of the three. -/
inductive Grammatical : Json → Prop where
  | object {members : List (String × Json)} {word entityType : String} {target : Json}
      (hverb : members.lookup "verb" = some (.string word))
      (hentityType : members.lookup "entity_type" = some (.string entityType))
      (htarget : members.lookup "target_value" = some target) : Grammatical (.object members)
  | array (word entityType : String) (target : Json) :
      Grammatical (.array [.string word, .string entityType, target])

lemma exists_writtenAs_iff : (∃ o : Operation, o.WrittenAs v) ↔ Grammatical v := by
  constructor
  · rintro ⟨o, hwritten⟩
    cases hwritten with
    | object hverb _ hentityType htarget => exact .object hverb hentityType htarget
    | @array word => exact .array word o.entityType o.target
  · intro h
    cases h with
    | @object _ word entityType target hverb hentityType htarget =>
      exact ⟨⟨.ofWord word, entityType, target⟩, .object hverb rfl hentityType htarget⟩
    | array word entityType target => exact ⟨⟨.ofWord word, entityType, target⟩, .array rfl⟩

lemma exists_ofJson_eq_ok_iff : (∃ o, ofJson v = .ok o) ↔ Grammatical v := by
  simp only [ofJson_eq_ok_iff, exists_writtenAs_iff]

end Operation

/-! ### Parts of an instruction -/

/-- The value is a list of operations. -/
def Json.IsOperations (v : Json) : Prop :=
  ∃ es, v = .array es ∧ ∀ e ∈ es, Operation.Grammatical e

/-- The value is a text. -/
def Json.IsText (v : Json) : Prop :=
  ∃ text, v = .string text

namespace Instruction

open Decode

variable {i : Instruction} {operations? errors? redirect? : Option Json}

/-- The instruction consists of the parts. A part that is missing is empty, and so are null errors;
the operations stand in the order of their list, each with the target that it is written with. -/
structure HasParts (i : Instruction) (operations? errors? redirect? : Option Json) : Prop where
  operations : operations? = none ∧ i.operations = [] ∨
    ∃ es, operations? = some (.array es) ∧ List.Forall₂ (fun e o => o.WrittenAs e) es i.operations
  errors : (errors? = none ∨ errors? = some .null) ∧ i.errors = none ∨
    ∃ e ≠ .null, errors? = some e ∧ i.errors = some e
  redirect : redirect? = none ∧ i.redirect = "" ∨ redirect? = some (.string i.redirect)

lemma part_decodeOperations_iff {ops : List Operation} :
    Part decodeOperations [] operations? ops ↔ operations? = none ∧ ops = [] ∨
      ∃ es, operations? = some (.array es) ∧ List.Forall₂ (fun e o => o.WrittenAs e) es ops := by
  cases operations? with
  | none => simp [part_none_iff, eq_comm]
  | some v => simp [part_some_iff, decodeOperations_eq_ok_iff]

lemma part_decodeErrors_iff {errors : Option Json} :
    Part decodeErrors none errors? errors ↔
      (errors? = none ∨ errors? = some .null) ∧ errors = none ∨
        ∃ e ≠ .null, errors? = some e ∧ errors = some e := by
  cases errors? with
  | none => simp [part_none_iff, eq_comm]
  | some v =>
    rw [part_some_iff]
    cases v <;> simp [decodeErrors, Decode.optional, Except.map, eq_comm]

lemma part_text_iff {redirect : String} :
    Part Decode.text "" redirect? redirect ↔
      redirect? = none ∧ redirect = "" ∨ redirect? = some (.string redirect) := by
  cases redirect? with
  | none => simp [part_none_iff, eq_comm]
  | some v => simp [part_some_iff, text_eq_ok_iff]

lemma hasParts_iff : i.HasParts operations? errors? redirect? ↔
    Part decodeOperations [] operations? i.operations ∧ Part decodeErrors none errors? i.errors ∧
      Part Decode.text "" redirect? i.redirect := by
  rw [part_decodeOperations_iff, part_decodeErrors_iff, part_text_iff]
  constructor
  · rintro ⟨hoperations, herrors, hredirect⟩
    exact ⟨hoperations, herrors, hredirect⟩
  · rintro ⟨hoperations, herrors, hredirect⟩
    exact ⟨hoperations, herrors, hredirect⟩

lemma ofJson_object_eq_ok_iff_hasParts {members : List (String × Json)} :
    ofJson (.object members) = .ok i ↔ i.HasParts (members.lookup "operations")
      (members.lookup "errors") (members.lookup "redirect") := by
  rw [ofJson_object_eq_ok_iff, hasParts_iff]
  constructor
  · rintro (⟨hoperations, herrors, hredirect⟩ | _)
    exact ⟨hoperations, herrors, hredirect⟩
  · rintro ⟨hoperations, herrors, hredirect⟩
    exact .object hoperations herrors hredirect

lemma ofJson_array_eq_ok_iff_hasParts {es : List Json} :
    ofJson (.array es) = .ok i ↔ es.length ≤ 3 ∧ i.HasParts es[0]? es[1]? es[2]? := by
  rw [ofJson_array_eq_ok_iff, writtenAs_array_iff, hasParts_iff]

/-! ### The grammar -/

lemma exists_decodeOperations_eq_ok_iff :
    (∃ ops, decodeOperations v = .ok ops) ↔ v.IsOperations := by
  simp only [decodeOperations_eq_ok_iff, Json.IsOperations, ← Operation.exists_writtenAs_iff,
    ← exists_forall₂_iff]
  constructor
  · rintro ⟨ops, es, rfl, hwritten⟩
    exact ⟨es, rfl, ops, hwritten⟩
  · rintro ⟨es, rfl, ops, hwritten⟩
    exact ⟨ops, es, rfl, hwritten⟩

lemma exists_decodeErrors_eq_ok (v : Json) : ∃ errors, decodeErrors v = .ok errors := by
  cases v <;> exact ⟨_, rfl⟩

lemma exists_text_eq_ok_iff : (∃ word, Decode.text v = .ok word) ↔ v.IsText := by
  simp only [text_eq_ok_iff, Json.IsText]

/-- The parts can be read if the operations are a list of operations and the redirect is a text, as
far as they are there. -/
lemma exists_hasParts_iff : (∃ i : Instruction, i.HasParts operations? errors? redirect?) ↔
    (∀ part ∈ operations?, part.IsOperations) ∧ ∀ part ∈ redirect?, part.IsText := by
  simp only [hasParts_iff, ← exists_decodeOperations_eq_ok_iff, ← exists_text_eq_ok_iff]
  constructor
  · rintro ⟨i, hoperations, -, hredirect⟩
    exact ⟨exists_part_iff.mp ⟨_, hoperations⟩, exists_part_iff.mp ⟨_, hredirect⟩⟩
  · rintro ⟨hoperations, hredirect⟩
    obtain ⟨operations, hoperations⟩ :
        ∃ operations, Part decodeOperations [] operations? operations :=
      exists_part_iff.mpr hoperations
    obtain ⟨errors, herrors⟩ : ∃ errors, Part decodeErrors none errors? errors :=
      exists_part_iff.mpr fun part _ => exists_decodeErrors_eq_ok part
    obtain ⟨redirect, hredirect⟩ : ∃ redirect, Part Decode.text "" redirect? redirect :=
      exists_part_iff.mpr hredirect
    exact ⟨⟨operations, errors, redirect⟩, hoperations, herrors, hredirect⟩

/-- The values that are accepted as instructions: an object, or a list of at most three elements, in
which the operations are a list of operations and the redirect is a text, as far as they are
there. -/
inductive Grammatical : Json → Prop where
  | object {members : List (String × Json)}
      (hoperations : ∀ part ∈ members.lookup "operations", part.IsOperations)
      (hredirect : ∀ part ∈ members.lookup "redirect", part.IsText) : Grammatical (.object members)
  | array {es : List Json} (hlength : es.length ≤ 3)
      (hoperations : ∀ part ∈ es[0]?, part.IsOperations)
      (hredirect : ∀ part ∈ es[2]?, part.IsText) : Grammatical (.array es)

lemma exists_ofJson_eq_ok_iff : (∃ i, ofJson v = .ok i) ↔ Grammatical v := by
  cases v with
  | object members =>
    simp only [ofJson_object_eq_ok_iff_hasParts, exists_hasParts_iff]
    constructor
    · rintro ⟨hoperations, hredirect⟩
      exact .object hoperations hredirect
    · rintro (⟨hoperations, hredirect⟩ | _)
      exact ⟨hoperations, hredirect⟩
  | array es =>
    simp only [ofJson_array_eq_ok_iff_hasParts, exists_and_left, exists_hasParts_iff]
    constructor
    · rintro ⟨hlength, hoperations, hredirect⟩
      exact .array hlength hoperations hredirect
    · rintro (_ | ⟨hlength, hoperations, hredirect⟩)
      exact ⟨hlength, hoperations, hredirect⟩
  | _ =>
    constructor
    · rintro ⟨i, h⟩
      cases h
    · rintro ⟨⟩

/-- Every element of an accepted list of operations is accepted as an operation. -/
lemma HasParts.exists_ofJson_eq_ok {es : List Json} {e : Json}
    (h : i.HasParts (some (.array es)) errors? redirect?) (he : e ∈ es) :
    ∃ o, Operation.ofJson e = .ok o := by
  obtain ⟨_, heq, hgrammatical⟩ := (exists_hasParts_iff.mp ⟨i, h⟩).1 _ rfl
  obtain rfl := Json.array.inj heq
  exact Operation.exists_ofJson_eq_ok_iff.mpr (hgrammatical e he)

/-- An instruction is accepted exactly if the value is an object or a list of at most three elements
whose parts are fit, and an operation exactly if it is an object or a list of its three parts. What
is accepted consists of the parts as they are written: operations in their order, with their words
and targets. One value among the operations that is none is enough to refuse the instruction. -/
theorem ofJson_ok_iff_grammatical :
    (∀ v, (∃ i, ofJson v = .ok i) ↔ Grammatical v) ∧
    (∀ v, (∃ o, Operation.ofJson v = .ok o) ↔ Operation.Grammatical v) ∧
    (∀ v o, Operation.ofJson v = .ok o ↔ o.WrittenAs v) ∧
    (∀ members i, ofJson (.object members) = .ok i ↔ i.HasParts (members.lookup "operations")
      (members.lookup "errors") (members.lookup "redirect")) ∧
    (∀ es i, ofJson (.array es) = .ok i ↔
      es.length ≤ 3 ∧ i.HasParts es[0]? es[1]? es[2]?) ∧
    ∀ es, (∃ e ∈ es, ∀ o, Operation.ofJson e ≠ .ok o) →
      (∀ members : List (String × Json), members.lookup "operations" = some (.array es) →
        ∀ i, ofJson (.object members) ≠ .ok i) ∧
      ∀ rest i, ofJson (.array (.array es :: rest)) ≠ .ok i := by
  refine ⟨fun v => exists_ofJson_eq_ok_iff, fun v => Operation.exists_ofJson_eq_ok_iff,
    fun v o => Operation.ofJson_eq_ok_iff, fun members i => ofJson_object_eq_ok_iff_hasParts,
    fun es i => ofJson_array_eq_ok_iff_hasParts, ?_⟩
  rintro es ⟨e, he, hrefused⟩
  have hnone : ∀ {i errors? redirect?}, ¬ HasParts i (some (.array es)) errors? redirect? :=
    fun hparts => (hparts.exists_ofJson_eq_ok he).elim hrefused
  refine ⟨fun members hmember i h => ?_, fun rest i h => ?_⟩
  · rw [ofJson_object_eq_ok_iff_hasParts, hmember] at h
    exact hnone h
  · exact hnone (ofJson_array_eq_ok_iff_hasParts.mp h).2

/-- Operations may be missing but not null. -/
example : ofJson (.object []) = .ok ⟨[], none, ""⟩ ∧
    ofJson (.object [("operations", .null)]) = .error (.wrongKind .null .sequence) :=
  ⟨rfl, rfl⟩

end Instruction

end EntitySync
