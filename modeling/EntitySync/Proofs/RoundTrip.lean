import EntitySync.Proofs.Run

/-!
# Snapshots and JSON objects

A snapshot is written as an object of its collections and read back from one. Reading an object and
writing it again always gives the object. The other way round an array that is kept as a plain value
comes back as records, so a snapshot comes back as it was exactly if it has no such collection. The
constructors and the engine never make one.
-/

namespace EntitySync

variable {β γ δ : Type}

/-! ### Dictionaries with other values -/

lemma Entries.Ascending.map {entries : List (String × β)} (h : Ascending entries) (f : β → γ) :
    Ascending (entries.map fun (key, value) => (key, f value)) :=
  List.pairwise_map.mpr h

lemma Entries.lookup_map (f : β → γ) (key : String) (entries : List (String × β)) :
    (entries.map fun (key, value) => (key, f value)).lookup key = (entries.lookup key).map f := by
  induction entries with
  | nil => rfl
  | cons head rest ih =>
    obtain ⟨k, v⟩ := head
    cases hkey : key == k <;> simp [List.lookup_cons, hkey, ih]

lemma Entries.insert_map (f : β → γ) (key : String) (value : β) (entries : List (String × β)) :
    insert key (f value) (entries.map fun (key, value) => (key, f value)) =
      (insert key value entries).map fun (key, value) => (key, f value) := by
  induction entries with
  | nil => rfl
  | cons head rest ih =>
    obtain ⟨k, v⟩ := head
    simp only [List.map_cons, insert]
    split_ifs
    · rfl
    · rfl
    · rw [ih, List.map_cons]

lemma Entries.insertAll_map (f : β → γ) (entries added : List (String × β)) :
    insertAll (entries.map fun (key, value) => (key, f value))
        (added.map fun (key, value) => (key, f value)) =
      (insertAll entries added).map fun (key, value) => (key, f value) := by
  induction added generalizing entries with
  | nil => rfl
  | cons head rest ih =>
    obtain ⟨k, v⟩ := head
    simp only [List.map_cons, insertAll_cons, insert_map, ih]

lemma Entries.ofList_map (f : β → γ) (entries : List (String × β)) :
    ofList (entries.map fun (key, value) => (key, f value)) =
      (ofList entries).map fun (key, value) => (key, f value) :=
  insertAll_map f [] entries

namespace Dict

/-- The dictionary with a function applied to every value. -/
def map (f : β → γ) (d : Dict β) : Dict γ :=
  ⟨d.entries.map fun (key, value) => (key, f value), d.ascending.map f⟩

@[simp] lemma get?_map (f : β → γ) (d : Dict β) (key : String) :
    (d.map f).get? key = (d.get? key).map f :=
  Entries.lookup_map f key d.entries

lemma map_map (f : β → γ) (g : γ → δ) (d : Dict β) : (d.map f).map g = d.map (g ∘ f) :=
  ext_get? fun key => by simp

lemma map_eq_self_iff {f : β → β} {d : Dict β} :
    d.map f = d ↔ ∀ key value, d.get? key = some value → f value = value := by
  constructor
  · intro h key value hget
    have hmap := get?_map f d key
    rw [h, hget] at hmap
    exact (Option.some.inj hmap).symm
  · intro h
    refine ext_get? fun key => ?_
    rw [get?_map]
    cases hget : d.get? key with
    | none => rfl
    | some value => rw [Option.map_some, h key value hget]

lemma ofList_map (f : β → γ) (entries : List (String × β)) :
    ofList (entries.map fun (key, value) => (key, f value)) = (ofList entries).map f := by
  simp only [ofList, map, Entries.ofList_map]

lemma ofList_entries (d : Dict β) : ofList d.entries = d := by
  simp only [ofList, Entries.ofList_of_ascending d.ascending]

end Dict

/-! ### Arrays as records -/

/-- The collection is no array that is kept as a plain value. -/
def Collection.Regular (c : Collection) : Prop :=
  ∀ entries, c ≠ .value (.array entries)

namespace Collection

lemma regular_records (entries : List Record) : (records entries).Regular := by
  rintro _ ⟨⟩

lemma regular_ofJson (value : Json) : (ofJson value).Regular := by
  rintro entries h
  cases value <;> cases h

/-- A collection comes back from its JSON value unless it is an array kept as a plain value. -/
lemma ofJson_toJson_iff {c : Collection} : ofJson c.toJson = c ↔ c.Regular := by
  constructor
  · intro h
    exact h ▸ regular_ofJson c.toJson
  · intro h
    cases c with
    | records entries => simp [toJson, ofJson, Function.comp_def]
    | value json =>
      cases json with
      | array entries => exact absurd rfl (h entries)
      | _ => rfl

end Collection

namespace Snapshot

variable {s t : Snapshot} {entityType : EntityType} {o : Operation} {ops : List Operation}

/-! ### Reading and writing -/

lemma toJson_eq_map (s : Snapshot) :
    s.toJson = .object (s.collections.map Collection.toJson).entries := rfl

/-- Reading an object reads each of its members. -/
lemma ofJson_object (members : List (String × Json)) :
    ofJson (.object members) = .ok ⟨(Dict.ofList members).map Collection.ofJson⟩ := by
  rw [ofJson, Dict.ofList_map]

lemma ofJson_entries (members : Dict Json) :
    ofJson (.object members.entries) = .ok ⟨members.map Collection.ofJson⟩ := by
  rw [ofJson_object, Dict.ofList_entries]

/-- An object that has been read is written as it was. -/
lemma toJson_map_ofJson (members : Dict Json) :
    toJson ⟨members.map Collection.ofJson⟩ = .object members.entries := by
  have hback : (members.map Collection.ofJson).map Collection.toJson = members := by
    rw [Dict.map_map, Dict.map_eq_self_iff]
    exact fun _ value _ => Collection.toJson_ofJson value
  rw [toJson_eq_map, hback]

/-- What becomes of a snapshot that is written and read again. -/
lemma ofJson_toJson (s : Snapshot) :
    ofJson s.toJson = .ok ⟨s.collections.map (Collection.ofJson ∘ Collection.toJson)⟩ := by
  rw [toJson_eq_map, ofJson_entries, Dict.map_map]

/-- No collection is an array that is kept as a plain value. -/
def Regular (s : Snapshot) : Prop :=
  ∀ entityType c, s.get? entityType = some c → c.Regular

lemma regular_iff :
    s.Regular ↔ ∀ entityType entries, s.get? entityType ≠ some (.value (.array entries)) := by
  constructor
  · intro h entityType entries hget
    exact h entityType _ hget entries rfl
  · rintro h entityType c hget entries rfl
    exact h entityType entries hget

/-- A snapshot comes back from its JSON value exactly if no collection comes back changed. -/
lemma ofJson_toJson_eq_ok_iff : ofJson s.toJson = .ok s ↔ s.Regular := by
  rw [ofJson_toJson, Except.ok.injEq]
  obtain ⟨collections⟩ := s
  simp only [mk.injEq, Dict.map_eq_self_iff, Function.comp_apply, Collection.ofJson_toJson_iff]
  rfl

lemma serialize_eq_toJson (s : Snapshot) : s.serialize = s.toJson := by
  rw [serialize, Entries.ofList_of_ascending (s.collections.ascending.map Collection.toJson)]
  rfl

/-! ### Reachable snapshots -/

/-- The snapshots that can be made: the empty one and those that are read, and what comes of them
when a collection is replaced or operations are applied, one or many. A failed batch leaves one,
too. -/
inductive Reachable : Snapshot → Prop where
  | empty : Reachable empty
  | ofJson {value : Json} {s : Snapshot} (h : ofJson value = .ok s) : Reachable s
  | setRecords {s : Snapshot} (hs : Reachable s) (entityType : EntityType)
      (entries : List Record) : Reachable (s.set entityType (.records entries))
  | setJson {s : Snapshot} (hs : Reachable s) (entityType : EntityType) (value : Json) :
      Reachable (s.set entityType (.ofJson value))
  | apply {s t : Snapshot} {o : Operation} (hs : Reachable s) (h : s.apply o = .ok t) : Reachable t
  | applyAll {s t : Snapshot} {ops : List Operation} (hs : Reachable s)
      (h : s.applyAll ops = .ok t) : Reachable t
  | applied {s : Snapshot} {ops : List Operation} {e : FoldError} (hs : Reachable s)
      (h : s.applyAll ops = .error e) : Reachable e.applied

lemma regular_empty : empty.Regular := by
  intro entityType c hget
  cases hget

lemma Regular.set {c : Collection} (h : s.Regular) (hc : c.Regular) :
    (s.set entityType c).Regular :=
  forall_collection_set h hc

lemma regular_of_ofJson {value : Json} (h : ofJson value = .ok s) : s.Regular := by
  cases value with
  | object members =>
    rw [ofJson_object, Except.ok.injEq] at h
    subst h
    intro entityType c hget
    obtain ⟨member, -, rfl⟩ := Option.map_eq_some_iff.mp ((Dict.get?_map _ _ _).symm.trans hget)
    exact Collection.regular_ofJson member
  | _ => cases h

lemma Regular.step (h : s.Regular) (hstep : s.Step o t) : t.Regular := by
  cases hstep with
  | overwrite entityType target => exact h.set (Collection.regular_ofJson target)
  | merge | delete => exact h.set (Collection.regular_records _)

lemma Regular.run (h : s.Regular) (hrun : s.Run ops t) : t.Regular :=
  hrun.invariant (fun _ _ _ _ hs hstep => hs.step hstep) h

lemma Reachable.regular (h : Reachable s) : s.Regular := by
  induction h with
  | empty => exact regular_empty
  | ofJson h => exact regular_of_ofJson h
  | setRecords _ entityType entries ih => exact ih.set (Collection.regular_records entries)
  | setJson _ entityType value ih => exact ih.set (Collection.regular_ofJson value)
  | apply _ h ih => exact ih.step (apply_eq_ok_iff.mp h)
  | applyAll _ h ih => exact ih.run (applyAll_eq_ok_iff.mp h)
  | applied _ h ih =>
    obtain ⟨done, o, rest, -, hrun, -⟩ := applyAll_eq_error_iff.mp h
    exact ih.run hrun

/-- Every regular snapshot is reachable: it can be read from its JSON value. -/
lemma reachable_iff_regular : Reachable s ↔ s.Regular :=
  ⟨Reachable.regular, fun h => .ofJson (ofJson_toJson_eq_ok_iff.mpr h)⟩

/-- Every object is read and is written as it was; nothing else is read. The reachable snapshots are
those that hold no array as a plain value, and those that come back as they were from what is
written of them. A serializer writes the same. -/
theorem reachable_round_trip :
    (∀ members : Dict Json, ∃ s, ofJson (.object members.entries) = .ok s ∧
      s.toJson = .object members.entries) ∧
    (∀ value, (∀ members, value ≠ .object members) → ∃ fault, ofJson value = .error fault) ∧
    ∀ s, (Reachable s ↔
        ∀ entityType entries, s.get? entityType ≠ some (.value (.array entries))) ∧
      (Reachable s ↔ ofJson s.toJson = .ok s) ∧
      s.serialize = s.toJson := by
  refine ⟨fun members => ?_, fun value hvalue => ?_, fun s => ⟨?_, ?_, s.serialize_eq_toJson⟩⟩
  · exact ⟨_, ofJson_entries members, toJson_map_ofJson members⟩
  · cases value with
    | object members => exact absurd rfl (hvalue members)
    | _ => exact ⟨_, rfl⟩
  · rw [reachable_iff_regular, regular_iff]
  · rw [reachable_iff_regular, ofJson_toJson_eq_ok_iff]

/-- A batch that fails after an overwrite with an array, on a snapshot that has been read. -/
theorem reachable_round_trip_of_failed :
    let members : Dict Json := .ofList [
      ("Event", .array [.null, .string "x"]), (tokenType, .string "t")]
    let ops : List Operation := [
      ⟨.overwrite, "Log", .array [.array []]⟩,
      ⟨.delete, "Event", .array [.null]⟩,
      ⟨.merge, tokenType, .array []⟩]
    ∃ s e, ofJson (.object members.entries) = .ok s ∧ s.toJson = .object members.entries ∧
      s.applyAll ops = .error e ∧ e.index = 2 ∧ Reachable e.applied ∧
      ofJson e.applied.toJson = .ok e.applied := by
  intro members ops
  obtain ⟨hobjects, -, hreachable⟩ := reachable_round_trip
  obtain ⟨s, hread, hwritten⟩ := hobjects members
  have hfails : (ofJson (.object members.entries)).toOption.any (fun s =>
      Except.casesOn (motive := fun _ => Bool) (s.applyAll ops) (fun e => decide (e.index = 2))
        fun _ => false) = true := by decide +kernel
  rw [hread] at hfails
  cases herror : s.applyAll ops with
  | ok t => simp [Except.toOption, herror] at hfails
  | error e =>
    have hindex : e.index = 2 := by simpa [Except.toOption, herror] using hfails
    have hleft : Reachable e.applied := (Reachable.ofJson hread).applied herror
    exact ⟨s, e, hread, hwritten, herror, hindex, hleft, (hreachable _).2.1.mp hleft⟩

end Snapshot

end EntitySync
