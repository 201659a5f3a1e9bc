import Mathlib
import EntitySync.Instruction

/-!
# What decodes

The values that decode to an operation or to an instruction, with a rule for each of the two
encodings: an object whose unknown members do not matter, or the list of the parts in order.
-/

namespace EntitySync

variable {α β ε : Type} {v : Json}

/-! ### Decoders -/

lemma bind_eq_ok_iff {x : Except ε α} {f : α → Except ε β} {b : β} :
    (x >>= f) = .ok b ↔ ∃ a, x = .ok a ∧ f a = .ok b := by
  cases x <;> simp [bind, Except.bind]

lemma pure_eq_ok_iff {a b : α} : (pure a : Except ε α) = .ok b ↔ a = b :=
  ⟨Except.ok.inj, congrArg Except.ok⟩

lemma mapError_eq_ok_iff {ε' : Type} {x : Except ε α} {f : ε → ε'} {a : α} :
    x.mapError f = .ok a ↔ x = .ok a := by
  cases x <;> simp [Except.mapError]

lemma mapM_eq_ok_iff {f : α → Except ε β} {as : List α} {bs : List β} :
    as.mapM f = .ok bs ↔ List.Forall₂ (fun a b => f a = .ok b) as bs := by
  induction as generalizing bs with
  | nil => rw [List.mapM_nil, pure_eq_ok_iff, List.forall₂_nil_left_iff, eq_comm]
  | cons a as ih =>
    simp only [List.mapM_cons, bind_eq_ok_iff, pure_eq_ok_iff, ih, List.forall₂_cons_left_iff]
    constructor
    · rintro ⟨b, hb, bs', hbs, rfl⟩
      exact ⟨b, bs', hb, hbs, rfl⟩
    · rintro ⟨b, bs', hb, hbs, rfl⟩
      exact ⟨b, hb, bs', hbs, rfl⟩

namespace Decode

variable {decode : Json → Decoded α} {members : List (String × Json)} {name : String}

lemma text_eq_ok_iff {word : String} : text v = .ok word ↔ v = .string word := by
  cases v <;> simp [text]

lemma list_eq_ok_iff {as : List α} :
    list decode v = .ok as ↔
      ∃ es, v = .array es ∧ List.Forall₂ (fun e a => decode e = .ok a) es as := by
  cases v <;> simp [list, mapM_eq_ok_iff]

lemma require_eq_ok_iff {a? : Option α} {a : α} : require name a? = .ok a ↔ a? = some a := by
  cases a? <;> simp [require]

lemma member?_eq_ok_some_iff {a : α} :
    member? members name decode = .ok (some a) ↔
      ∃ v, members.lookup name = some v ∧ decode v = .ok a := by
  unfold member?
  cases members.lookup name with
  | none => simp
  | some v => cases hdecode : decode v <;> simp [Except.map, hdecode]

/-- A part of a structure: what it decodes to if it is there, the default if it is not. -/
inductive Part (decode : Json → Decoded α) (default : α) : Option Json → α → Prop where
  | absent : Part decode default none default
  | present {v : Json} {a : α} (h : decode v = .ok a) : Part decode default (some v) a

lemma part_none_iff {default a : α} : Part decode default none a ↔ default = a := by
  constructor
  · rintro ⟨⟩
    rfl
  · rintro rfl
    exact .absent

lemma part_some_iff {default a : α} : Part decode default (some v) a ↔ decode v = .ok a := by
  constructor
  · rintro ⟨⟩
    assumption
  · exact .present

/-- A member that may be missing is a part. -/
lemma part_lookup_iff {default a : α} :
    Part decode default (members.lookup name) a ↔
      ∃ a?, member? members name decode = .ok a? ∧ a?.getD default = a := by
  unfold member?
  cases members.lookup name with
  | none => simp [part_none_iff, eq_comm]
  | some v => cases hdecode : decode v <;> simp [part_some_iff, Except.map, hdecode]

end Decode

/-! ### Operations -/

namespace Operation

open Decode

variable {o : Operation}

/-- The values that an operation is written as. -/
inductive WrittenAs (o : Operation) : Json → Prop where
  | object {members : List (String × Json)} {word : String}
      (hverb : members.lookup "verb" = some (.string word)) (hword : .ofWord word = o.verb)
      (hentityType : members.lookup "entity_type" = some (.string o.entityType))
      (htarget : members.lookup "target_value" = some o.target) : WrittenAs o (.object members)
  | array {word : String} (hword : .ofWord word = o.verb) :
      WrittenAs o (.array [.string word, .string o.entityType, o.target])

lemma ofJson_object_eq_ok_iff {members : List (String × Json)} :
    ofJson (.object members) = .ok o ↔ o.WrittenAs (.object members) := by
  obtain ⟨verb, entityType, target⟩ := o
  simp only [ofJson, bind_eq_ok_iff, require_eq_ok_iff, pure_eq_ok_iff, mk.injEq]
  constructor
  · rintro ⟨_, htype, _, htarget, _, hverb, word, rfl, _, rfl, _, rfl, hword, rfl, rfl⟩
    obtain ⟨_, hverb, hverb'⟩ := member?_eq_ok_some_iff.mp hverb
    obtain ⟨_, htype, htype'⟩ := member?_eq_ok_some_iff.mp htype
    obtain ⟨_, htarget, htarget'⟩ := member?_eq_ok_some_iff.mp htarget
    obtain rfl := text_eq_ok_iff.mp hverb'
    obtain rfl := text_eq_ok_iff.mp htype'
    cases htarget'
    exact .object hverb hword htype htarget
  · rintro (⟨hverb, hword, htype, htarget⟩ | _)
    refine ⟨_, member?_eq_ok_some_iff.mpr ⟨_, htype, rfl⟩, _,
      member?_eq_ok_some_iff.mpr ⟨_, htarget, rfl⟩, _,
      member?_eq_ok_some_iff.mpr ⟨_, hverb, rfl⟩, _, rfl, _, rfl, _, rfl, hword, rfl, rfl⟩

lemma ofJson_array_eq_ok_iff {es : List Json} :
    ofJson (.array es) = .ok o ↔ o.WrittenAs (.array es) := by
  obtain ⟨verb, entityType, target⟩ := o
  constructor
  · intro h
    rcases es with _ | ⟨a, _ | ⟨b, _ | ⟨c, _ | ⟨d, es⟩⟩⟩⟩ <;>
      simp only [ofJson, bind_eq_ok_iff, pure_eq_ok_iff, reduceCtorEq, and_false,
        exists_false, text_eq_ok_iff, mk.injEq] at h
    obtain ⟨word, rfl, _, rfl, hword, rfl, rfl⟩ := h
    exact .array hword
  · rintro (_ | hword)
    simp only [ofJson, bind_eq_ok_iff, pure_eq_ok_iff, text_eq_ok_iff, mk.injEq]
    exact ⟨_, rfl, _, rfl, hword, rfl, trivial⟩

/-- A value decodes to an operation exactly if the operation is written so. -/
lemma ofJson_eq_ok_iff : ofJson v = .ok o ↔ o.WrittenAs v := by
  cases v with
  | object members => exact ofJson_object_eq_ok_iff
  | array es => exact ofJson_array_eq_ok_iff
  | _ =>
    constructor
    · intro h
      cases h
    · rintro ⟨⟩

end Operation

/-! ### Instructions -/

namespace Instruction

open Decode

variable {i : Instruction}

lemma decodeOperations_eq_ok_iff {ops : List Operation} :
    decodeOperations v = .ok ops ↔
      ∃ es, v = .array es ∧ List.Forall₂ (fun e o => Operation.WrittenAs o e) es ops := by
  simp only [decodeOperations, list_eq_ok_iff, Operation.ofJson_eq_ok_iff]

/-- The values that an instruction is written as. -/
inductive WrittenAs (i : Instruction) : Json → Prop where
  | object {members : List (String × Json)}
      (hoperations : Part decodeOperations [] (members.lookup "operations") i.operations)
      (herrors : Part decodeErrors none (members.lookup "errors") i.errors)
      (hredirect : Part Decode.text "" (members.lookup "redirect") i.redirect) :
      WrittenAs i (.object members)
  | array {es : List Json} (hlength : es.length ≤ 3)
      (hoperations : Part decodeOperations [] es[0]? i.operations)
      (herrors : Part decodeErrors none es[1]? i.errors)
      (hredirect : Part Decode.text "" es[2]? i.redirect) : WrittenAs i (.array es)

lemma writtenAs_array_iff {es : List Json} :
    i.WrittenAs (.array es) ↔ es.length ≤ 3 ∧ Part decodeOperations [] es[0]? i.operations ∧
      Part decodeErrors none es[1]? i.errors ∧ Part Decode.text "" es[2]? i.redirect := by
  constructor
  · rintro (_ | ⟨hlength, hoperations, herrors, hredirect⟩)
    exact ⟨hlength, hoperations, herrors, hredirect⟩
  · rintro ⟨hlength, hoperations, herrors, hredirect⟩
    exact .array hlength hoperations herrors hredirect

lemma ofJson_object_eq_ok_iff {members : List (String × Json)} :
    ofJson (.object members) = .ok i ↔ i.WrittenAs (.object members) := by
  obtain ⟨operations, errors, redirect⟩ := i
  simp only [ofJson, bind_eq_ok_iff, pure_eq_ok_iff, mk.injEq]
  constructor
  · rintro ⟨_, herrors, _, hoperations, _, hredirect, rfl, rfl, rfl⟩
    exact .object (part_lookup_iff.mpr ⟨_, hoperations, rfl⟩)
      (part_lookup_iff.mpr ⟨_, herrors, rfl⟩) (part_lookup_iff.mpr ⟨_, hredirect, rfl⟩)
  · rintro (⟨hoperations, herrors, hredirect⟩ | _)
    obtain ⟨_, hoperations, hoperations'⟩ := part_lookup_iff.mp hoperations
    obtain ⟨_, herrors, herrors'⟩ := part_lookup_iff.mp herrors
    obtain ⟨_, hredirect, hredirect'⟩ := part_lookup_iff.mp hredirect
    exact ⟨_, herrors, _, hoperations, _, hredirect, hoperations', herrors', hredirect'⟩

lemma ofJson_array_eq_ok_iff {es : List Json} :
    ofJson (.array es) = .ok i ↔ i.WrittenAs (.array es) := by
  obtain ⟨operations, errors, redirect⟩ := i
  rw [writtenAs_array_iff]
  -- A case for each number of parts, and one for too many.
  rcases es with _ | ⟨a, _ | ⟨b, _ | ⟨c, _ | ⟨d, es⟩⟩⟩⟩
  all_goals
    simp only [ofJson, bind_eq_ok_iff]
    simp [pure_eq_ok_iff, part_none_iff, part_some_iff]

/-- A value decodes to an instruction exactly if the instruction is written so. -/
lemma ofJson_eq_ok_iff : ofJson v = .ok i ↔ i.WrittenAs v := by
  cases v with
  | object members => exact ofJson_object_eq_ok_iff
  | array es => exact ofJson_array_eq_ok_iff
  | _ =>
    constructor
    · intro h
      cases h
    · rintro ⟨⟩

end Instruction

end EntitySync
