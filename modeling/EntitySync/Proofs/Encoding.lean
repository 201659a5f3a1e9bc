import EntitySync.Proofs.Decoding
import EntitySync.Proofs.Printable

/-!
# Instructions written and read again

An instruction comes back from what is written of it, but for two things that have no form of their
own on the wire: errors that are null are no errors, and a word of the vocabulary is the verb that
it names. The other way round a value in which every part has its name is written as it was read.
-/

namespace EntitySync

/-! ### Objects with given names -/

/-- Entries that are in a dictionary, with a name for each of its keys, make up the dictionary. -/
lemma Dict.ofList_eq_of_forall {β : Type} {d : Dict β} {entries : List (String × β)}
    (hnames : (entries.map Prod.fst).Nodup)
    (hkeys : ∀ name, name ∈ d.keys ↔ name ∈ entries.map Prod.fst)
    (hentries : ∀ e ∈ entries, d.get? e.1 = some e.2) : ofList entries = d := by
  refine ext_get? fun key => ?_
  have hlookup : (ofList entries).get? key = entries.lookup key :=
    Entries.lookup_ofList hnames key
  rw [hlookup]
  cases hkey : entries.lookup key with
  | none =>
    have hmissing : key ∉ d.keys := by
      rw [hkeys]
      exact Entries.lookup_eq_none_iff.mp hkey
    rw [mem_keys_iff, ← Option.ne_none_iff_exists', Ne, not_not] at hmissing
    exact hmissing.symm
  | some value => exact (hentries _ (Entries.mem_of_lookup_eq_some hkey)).symm

/-- The value is an object with a member for each of the names and no others. -/
def Json.HasNames (names : List String) (v : Json) : Prop :=
  ∃ members : Dict Json, v = .object members.entries ∧ ∀ name, name ∈ members.keys ↔ name ∈ names

lemma Json.hasNames_object {names : List String} {members : List (String × Json)}
    (hascending : (members.map Prod.fst).Pairwise (· < ·))
    (hnames : (members.map Prod.fst).Perm names) : (object members).HasNames names :=
  ⟨⟨members, List.pairwise_map.mp hascending⟩, rfl, fun _ => hnames.mem_iff⟩

/-! ### Normal forms -/

namespace Verb

/-- The verbs of the vocabulary. -/
def known : List Verb := [.merge, .mergeAppend, .mergePrepend, .add, .overwrite, .delete]

lemma unknown_notMem_known (word : String) : .unknown word ∉ known := by
  simp [known]

lemma ofWord_word_of_mem_known : ∀ verb ∈ known, ofWord verb.word = verb := by
  decide

lemma ofWord_eq_unknown {word : String} (h : ∀ verb ∈ known, word ≠ verb.word) :
    ofWord word = .unknown word := by
  simp only [known, List.forall_mem_cons, Verb.word] at h
  simp [ofWord, h]

/-- The verb that is read from the word of a verb: an unknown word is kept unless it is the word of
a known verb. -/
def normal : Verb → Verb
  | .unknown word => (known.find? fun verb => word = verb.word).getD (.unknown word)
  | verb => verb

lemma ofWord_word (verb : Verb) : ofWord verb.word = verb.normal := by
  cases verb with
  | unknown word =>
    rw [Verb.word, normal]
    cases hfind : known.find? fun verb => word = verb.word with
    | none => exact ofWord_eq_unknown (by simpa using hfind)
    | some other =>
      obtain rfl : word = other.word := by simpa using List.find?_some hfind
      exact ofWord_word_of_mem_known other (List.mem_of_find?_eq_some hfind)
  | _ => rfl

lemma normal_ofWord (word : String) : (ofWord word).normal = ofWord word := by
  rw [← ofWord_word, word_ofWord]

lemma normal_eq_self_iff {verb : Verb} :
    verb.normal = verb ↔ ∀ other ∈ known, verb ≠ .unknown other.word := by
  constructor
  · rintro h other hknown rfl
    rw [← ofWord_word] at h
    have hother : other = .unknown other.word :=
      (ofWord_word_of_mem_known other hknown).symm.trans h
    exact unknown_notMem_known _ (hother ▸ hknown)
  · intro h
    cases verb with
    | unknown word =>
      rw [← ofWord_word]
      exact ofWord_eq_unknown fun other hknown hword => h other hknown (hword ▸ rfl)
    | _ => rfl

end Verb

/-- The operation with the verb that its word is read as. -/
def Operation.normal (o : Operation) : Operation := { o with verb := o.verb.normal }

/-- The instruction that is read from what is written of this one: null errors are none, and no
known verb is kept as an unknown word. -/
def Instruction.normal (i : Instruction) : Instruction :=
  { i with operations := i.operations.map Operation.normal, errors := i.reported? }

/-! ### Operations -/

namespace Operation

variable {o : Operation} {v : Json}

/-- The parts of an operation with their names. -/
def fields (o : Operation) : List (String × Json) :=
  [("verb", .string o.verb.word), ("entity_type", .string o.entityType), ("target_value", o.target)]

lemma nodup_names (o : Operation) : (o.fields.map Prod.fst).Nodup := by
  simp [fields]

/-- An object with the parts of an operation is read as the operation with its normal verb. -/
lemma writtenAs_of_lookup {members : List (String × Json)}
    (h : ∀ name, members.lookup name = o.fields.lookup name) :
    o.normal.WrittenAs (.object members) :=
  .object (h "verb") o.verb.ofWord_word (h "entity_type") (h "target_value")

lemma writtenAs_toJson (o : Operation) : o.normal.WrittenAs o.toJson :=
  writtenAs_of_lookup fun _ => rfl

lemma writtenAs_serialize (o : Operation) : o.normal.WrittenAs o.serialize :=
  writtenAs_of_lookup (Entries.lookup_ofList o.nodup_names)

/-- An object that has exactly the parts of an operation is what is written of the operation. -/
lemma WrittenAs.serialize_eq (h : o.WrittenAs v)
    (hnames : v.HasNames ["verb", "entity_type", "target_value"]) : o.serialize = v := by
  obtain ⟨members, rfl, hkeys⟩ := hnames
  cases h with
  | @object _ word hverb hword hentityType htarget =>
    rw [← Verb.word_ofWord word, hword] at hverb
    have hmembers : Dict.ofList o.fields = members :=
      Dict.ofList_eq_of_forall o.nodup_names hkeys (by
        simpa [fields] using ⟨hverb, hentityType, htarget⟩)
    rw [← hmembers]
    rfl

lemma normal_eq_self_iff : o.normal = o ↔ ∀ verb ∈ Verb.known, o.verb ≠ .unknown verb.word := by
  rw [← Verb.normal_eq_self_iff]
  obtain ⟨verb, entityType, target⟩ := o
  simp [normal]

lemma WrittenAs.normal_eq (h : o.WrittenAs v) : o.normal = o := by
  have hverb : o.verb.normal = o.verb := by
    cases h with
    | object _ hword | array hword => rw [← hword, Verb.normal_ofWord]
  rw [normal, hverb]

lemma map_normal_eq {es : List Json} {ops : List Operation}
    (h : List.Forall₂ (fun e o => o.WrittenAs e) es ops) : ops.map normal = ops := by
  induction h with
  | nil => rfl
  | cons hhead _ ih => rw [List.map_cons, hhead.normal_eq, ih]

lemma map_serialize_eq {es : List Json} {ops : List Operation}
    (h : List.Forall₂ (fun e o => o.WrittenAs e) es ops)
    (hnames : ∀ e ∈ es, e.HasNames ["verb", "entity_type", "target_value"]) :
    ops.map serialize = es := by
  induction h with
  | nil => rfl
  | cons hhead _ ih =>
    obtain ⟨hfirst, hrest⟩ := List.forall_mem_cons.mp hnames
    rw [List.map_cons, hhead.serialize_eq hfirst, ih hrest]

end Operation

/-! ### Instructions -/

namespace Instruction

variable {i : Instruction} {v : Json}

/-- The parts of an instruction with their names, the operations as the given values. -/
def fields (i : Instruction) (es : List Json) : List (String × Json) :=
  [("operations", .array es), ("errors", i.errors.getD .null), ("redirect", .string i.redirect)]

lemma nodup_names (i : Instruction) (es : List Json) : ((i.fields es).map Prod.fst).Nodup := by
  simp [fields]

lemma hasParts_normal {write : Operation → Json}
    (hwrite : ∀ o : Operation, o.normal.WrittenAs (write o)) (i : Instruction) :
    i.normal.HasParts (some (.array (i.operations.map write))) (some (i.errors.getD .null))
      (some (.string i.redirect)) where
  operations := by
    refine Or.inr ⟨_, rfl, ?_⟩
    rw [normal, List.forall₂_map_left_iff, List.forall₂_map_right_iff]
    exact List.forall₂_same.mpr fun o _ => hwrite o
  errors := by
    unfold normal reported?
    cases i.errors with
    | none => exact Or.inl ⟨Or.inr rfl, rfl⟩
    | some e => cases e <;> simp
  redirect := Or.inr rfl

/-- An object with the parts of an instruction is read as the normal instruction. -/
lemma ofJson_of_lookup {members : List (String × Json)} {write : Operation → Json}
    (hmembers : ∀ name,
      members.lookup name = (i.fields (i.operations.map write)).lookup name)
    (hwrite : ∀ o : Operation, o.normal.WrittenAs (write o)) :
    ofJson (.object members) = .ok i.normal := by
  rw [ofJson_object_eq_ok_iff_hasParts, hmembers, hmembers, hmembers]
  exact hasParts_normal hwrite i

lemma ofJson_toJson (i : Instruction) : ofJson i.toJson = .ok i.normal :=
  ofJson_of_lookup (fun _ => rfl) Operation.writtenAs_toJson

lemma ofJson_serialize (i : Instruction) : ofJson i.serialize = .ok i.normal :=
  ofJson_of_lookup (Entries.lookup_ofList (i.nodup_names _)) Operation.writtenAs_serialize

lemma reported?_eq_errors_iff : i.reported? = i.errors ↔ i.errors ≠ some .null := by
  unfold reported?
  cases i.errors with
  | none => simp
  | some e => cases e <;> simp

/-- The instructions that come back as they were. -/
lemma normal_eq_self_iff : i.normal = i ↔ i.errors ≠ some .null ∧
    ∀ o ∈ i.operations, ∀ verb ∈ Verb.known, o.verb ≠ .unknown verb.word := by
  have hoperations : i.operations.map Operation.normal = i.operations ↔
      ∀ o ∈ i.operations, o.normal = o := by
    conv_lhs => rhs; rw [← List.map_id i.operations]
    exact List.map_inj_left
  simp only [← Operation.normal_eq_self_iff]
  rw [← reported?_eq_errors_iff, ← hoperations]
  obtain ⟨operations, errors, redirect⟩ := i
  simp [normal, and_comm]

lemma HasParts.normal_eq {operations? errors? redirect? : Option Json}
    (h : i.HasParts operations? errors? redirect?) : i.normal = i := by
  have hoperations : i.operations.map Operation.normal = i.operations := by
    rcases h.operations with ⟨-, hnil⟩ | ⟨es, -, hwritten⟩
    · rw [hnil, List.map_nil]
    · exact Operation.map_normal_eq hwritten
  have herrors : i.reported? = i.errors := by
    rw [reported?_eq_errors_iff]
    rcases h.errors with ⟨-, hnone⟩ | ⟨e, hne, -, hsome⟩
    · simp [hnone]
    · simpa [hsome] using hne
  rw [normal, hoperations, herrors]

/-- What has been read is normal. -/
lemma normal_eq_of_ofJson (h : ofJson v = .ok i) : i.normal = i := by
  cases v with
  | object members => exact (ofJson_object_eq_ok_iff_hasParts.mp h).normal_eq
  | array es => exact (ofJson_array_eq_ok_iff_hasParts.mp h).2.normal_eq
  | _ => cases h

/-- The value is an object with the parts of an instruction and no other members, and so is each of
its operations an object with the parts of an operation. -/
structure Named (v : Json) : Prop where
  names : v.HasNames ["operations", "errors", "redirect"]
  operations : ∀ es, v.get? "operations" = some (.array es) →
    ∀ e ∈ es, e.HasNames ["verb", "entity_type", "target_value"]

/-- A value in which every part has its name is written as it was read. -/
lemma Named.serialize_eq (hnamed : Named v) (h : ofJson v = .ok i) : i.serialize = v := by
  obtain ⟨⟨members, rfl, hkeys⟩, helements⟩ := hnamed
  have hparts : i.HasParts (members.get? "operations") (members.get? "errors")
      (members.get? "redirect") := ofJson_object_eq_ok_iff_hasParts.mp h
  have hpresent : ∀ name ∈ ["operations", "errors", "redirect"], members.get? name ≠ none :=
    fun name hname => Option.ne_none_iff_exists'.mpr (Dict.mem_keys_iff.mp ((hkeys name).mpr hname))
  obtain ⟨es, hes, hwritten⟩ := hparts.operations.resolve_left fun hnone =>
    hpresent "operations" (by simp) hnone.1
  have herrors : members.get? "errors" = some (i.errors.getD .null) := by
    rcases hparts.errors with ⟨hmissing | hnull, hnone⟩ | ⟨e, -, hsome, herrors⟩
    · exact absurd hmissing (hpresent "errors" (by simp))
    · rw [hnull, hnone, Option.getD_none]
    · rw [hsome, herrors, Option.getD_some]
  have hredirect : members.get? "redirect" = some (.string i.redirect) :=
    hparts.redirect.resolve_left fun hnone => hpresent "redirect" (by simp) hnone.1
  have hmembers : Dict.ofList (i.fields es) = members :=
    Dict.ofList_eq_of_forall (i.nodup_names es) hkeys (by
      simpa [fields] using ⟨hes, herrors, hredirect⟩)
  rw [← hmembers, ← Operation.map_serialize_eq hwritten (helements es hes)]
  rfl

/-- An instruction is read back from what is written of it, whatever the order of the members, as
its normal form. So it comes back as it was exactly if its errors are not null and no known verb is
kept as an unknown word, in particular if it has been read itself. A value in which every part has
its name is written as it was read, words outside the vocabulary included. -/
theorem ofJson_serialize_eq_normal :
    (∀ i : Instruction, ofJson i.serialize = .ok i.normal ∧ ofJson i.toJson = .ok i.normal) ∧
    (∀ i : Instruction, ofJson i.serialize = .ok i ↔ i.errors ≠ some .null ∧
      ∀ o ∈ i.operations, ∀ verb ∈ Verb.known, o.verb ≠ .unknown verb.word) ∧
    (∀ v i, ofJson v = .ok i → ofJson i.serialize = .ok i) ∧
    ∀ v i, Named v → ofJson v = .ok i → i.serialize = v := by
  refine ⟨fun i => ⟨i.ofJson_serialize, i.ofJson_toJson⟩, fun i => ?_, fun v i h => ?_,
    fun v i hnamed h => hnamed.serialize_eq h⟩
  · rw [ofJson_serialize, Except.ok.injEq, normal_eq_self_iff]
  · rw [ofJson_serialize, normal_eq_of_ofJson h]

/-- A word outside the vocabulary, in an object whose errors are null. -/
theorem ofJson_serialize_eq_normal_unknown_word :
    let o : Json := .object [("entity_type", .string "Event"), ("target_value", .array []),
      ("verb", .string "UPSERT")]
    let v : Json := .object [("errors", .null), ("operations", .array [o]),
      ("redirect", .string "/login")]
    Named v ∧ ∃ i, ofJson v = .ok i ∧ i.serialize = v ∧ ofJson i.serialize = .ok i := by
  intro o v
  have hparts : (["errors", "operations", "redirect"] : List String).Pairwise (· < ·) ∧
      ["errors", "operations", "redirect"].Perm ["operations", "errors", "redirect"] := by
    decide +kernel
  have hfields : (["entity_type", "target_value", "verb"] : List String).Pairwise (· < ·) ∧
      ["entity_type", "target_value", "verb"].Perm ["verb", "entity_type", "target_value"] := by
    decide +kernel
  have hnamed : Named v := by
    refine ⟨Json.hasNames_object hparts.1 hparts.2, fun es hes e he => ?_⟩
    obtain rfl : [o] = es := by simpa [v, List.lookup_cons] using hes
    obtain rfl : e = o := by simpa using he
    exact Json.hasNames_object hfields.1 hfields.2
  have hread : ofJson v = .ok ⟨[⟨.unknown "UPSERT", "Event", .array []⟩], none, "/login"⟩ := rfl
  obtain ⟨-, -, hback, hwritten⟩ := ofJson_serialize_eq_normal
  exact ⟨hnamed, _, hread, hwritten v _ hnamed hread, hback v _ hread⟩

/-- The word of a verb and null errors do not come back; a word in small letters does. -/
example : ofJson (toJson ⟨[⟨.unknown "MERGE", "Log", .null⟩, ⟨.unknown "merge", "Log", .null⟩],
      some .null, "/"⟩) =
    .ok ⟨[⟨.merge, "Log", .null⟩, ⟨.unknown "merge", "Log", .null⟩], none, "/"⟩ := rfl

end Instruction

end EntitySync
