import EntitySync.Proofs.RecordIdentity

/-!
# Setting fields of a record

A record is built by setting fields one after the other. Of an object, the last value of each key
stays, and no other key comes or goes; any other entry stays as it is. So the last values are all
that counts, and fields with different keys can be set in any order. The proof replaces a list of
fields by its entry list in key order, which sets each key once.
-/

namespace EntitySync

/-! ### Last values -/

namespace Entries

variable {β : Type} {key : String} {entries added added' : List (String × β)}

/-- The values that come with a key, in their order. -/
def valuesOf (key : String) (added : List (String × β)) : List β :=
  (added.filter (·.1 = key)).map Prod.snd

/-- The last value that comes with a key. -/
def lastValue? (key : String) (added : List (String × β)) : Option β :=
  (valuesOf key added).getLast?

/-- The second list has the same entries at other places. Those with the same key stay in their
order. -/
def Reordered (added added' : List (String × β)) : Prop :=
  ∀ key, valuesOf key added = valuesOf key added'

@[simp] lemma lastValue?_nil (key : String) : lastValue? key ([] : List (String × β)) = none := rfl

@[simp] lemma lastValue?_concat (key : String) (added : List (String × β)) (e : String × β) :
    lastValue? key (added ++ [e]) = if e.1 = key then some e.2 else lastValue? key added := by
  unfold lastValue? valuesOf
  by_cases he : e.1 = key <;> simp [he, List.filter_append]

lemma lastValue?_eq_none_iff : lastValue? key added = none ↔ key ∉ added.map Prod.fst := by
  simp only [lastValue?, valuesOf, List.getLast?_eq_none_iff, List.map_eq_nil_iff,
    List.filter_eq_nil_iff, decide_eq_true_eq, List.mem_map, not_exists, not_and]

lemma Reordered.lastValue?_eq (h : Reordered added added') (key : String) :
    lastValue? key added = lastValue? key added' :=
  congrArg List.getLast? (h key)

/-- A key has the value that is set last, or the one that was there. -/
lemma lookup_insertAll (key : String) (entries added : List (String × β)) :
    (insertAll entries added).lookup key = (lastValue? key added).or (entries.lookup key) := by
  induction added using List.reverseRecOn with
  | nil => rfl
  | append_singleton added e ih =>
    rw [insertAll_concat, lookup_insert, ih, lastValue?_concat]
    by_cases he : e.1 = key
    · simp [he]
    · simp [he, Ne.symm he]

lemma mem_keys_insertAll_iff :
    key ∈ (insertAll entries added).map Prod.fst ↔
      key ∈ entries.map Prod.fst ∨ key ∈ added.map Prod.fst := by
  rw [← not_iff_not, not_or, ← lookup_eq_none_iff, lookup_insertAll, Option.or_eq_none_iff,
    lastValue?_eq_none_iff, lookup_eq_none_iff, and_comm]

/-- Lists with the same last values have the same entries in key order. -/
lemma ofList_eq_of_lastValue?_eq (h : ∀ key, lastValue? key added = lastValue? key added') :
    ofList added = ofList added' := by
  refine ext_lookup (ascending_ofList added) (ascending_ofList added') fun key => ?_
  rw [ofList_eq_insertAll, ofList_eq_insertAll, lookup_insertAll, lookup_insertAll, h key]

end Entries

namespace Record

open Entries (lastValue? Reordered Ascending insertAll)

variable {r : Record} {key other : String} {fields fields' : List (String × Json)}

/-! ### One field -/

lemma set_set_self (r : Record) (key : String) (value value' : Json) :
    (r.set key value).set key value' = r.set key value' := by
  obtain ⟨json⟩ := r
  cases json with
  | object members => simp [set, Entries.insert_insert_self]
  | _ => rfl

lemma set_comm (h : key ≠ other) (r : Record) (value value' : Json) :
    (r.set key value).set other value' = (r.set other value').set key value := by
  obtain ⟨json⟩ := r
  cases json with
  | object members => simp [set, Entries.insert_comm h]
  | _ => rfl

lemma set_of_ne_object (h : ∀ members, r.json ≠ .object members) (key : String) (value : Json) :
    r.set key value = r := by
  obtain ⟨json⟩ := r
  cases json with
  | object members => exact absurd rfl (h members)
  | _ => rfl

lemma get?_of_ne_object (h : ∀ members, r.json ≠ .object members) (key : String) :
    r.get? key = none := by
  obtain ⟨json⟩ := r
  cases json with
  | object members => exact absurd rfl (h members)
  | _ => rfl

lemma id?_of_ne_object (h : ∀ members, r.json ≠ .object members) : r.id? = some .absent := by
  have hget : r.json.get? "id" = none := get?_of_ne_object h "id"
  rw [id?, RecordId.of?_eq_ofOption?, hget, RecordId.ofOption?]

/-! ### Many fields -/

/-- Set fields one after the other. -/
def setAll (r : Record) (fields : List (String × Json)) : Record :=
  fields.foldl (fun r f => r.set f.1 f.2) r

@[simp] lemma setAll_nil (r : Record) : r.setAll [] = r := rfl

@[simp] lemma setAll_cons (r : Record) (f : String × Json) (fields : List (String × Json)) :
    r.setAll (f :: fields) = (r.set f.1 f.2).setAll fields := rfl

@[simp] lemma setAll_concat (r : Record) (fields : List (String × Json)) (f : String × Json) :
    r.setAll (fields ++ [f]) = (r.setAll fields).set f.1 f.2 := by
  simp [setAll]

lemma setAll_object (members fields : List (String × Json)) :
    (⟨.object members⟩ : Record).setAll fields = ⟨.object (insertAll members fields)⟩ := by
  induction fields generalizing members with
  | nil => rfl
  | cons f fields ih => exact ih _

lemma setAll_of_ne_object (h : ∀ members, r.json ≠ .object members)
    (fields : List (String × Json)) : r.setAll fields = r := by
  induction fields with
  | nil => rfl
  | cons f fields ih => rw [setAll_cons, set_of_ne_object h, ih]

/-! ### Fields in key order -/

/-- A field can be set before or after fields with other keys. -/
lemma setAll_set (h : ∀ f ∈ fields, f.1 ≠ key) (r : Record) (value : Json) :
    (r.set key value).setAll fields = (r.setAll fields).set key value := by
  induction fields generalizing r with
  | nil => rfl
  | cons f fields ih =>
    obtain ⟨hf, hfields⟩ := List.forall_mem_cons.mp h
    rw [setAll_cons, set_comm hf.symm, ih hfields, setAll_cons]

/-- A field that is put into an ascending list of fields is as good as one that is set last. -/
lemma setAll_insert (h : Ascending fields) (r : Record) (key : String) (value : Json) :
    r.setAll (Entries.insert key value fields) = (r.setAll fields).set key value := by
  induction fields generalizing r with
  | nil => rfl
  | cons f fields ih =>
    obtain ⟨k, v⟩ := f
    obtain ⟨hlow, hfields⟩ := List.pairwise_cons.mp h
    rw [Entries.insert]
    split
    next hlt => exact setAll_set (fun f hf => (Std.ne_of_lt (h.forall_lt hlt f hf)).symm) r value
    next =>
      split
      next heq =>
        -- the value that is replaced could have been set after the fields with other keys
        subst heq
        have hother : ∀ f ∈ fields, f.1 ≠ key := fun f hf => (Std.ne_of_lt (hlow f hf)).symm
        rw [setAll_cons, setAll_cons, ← setAll_set hother, set_set_self]
      next => exact ih hfields _

/-- Fields can be set in key order, each key once with its last value. -/
lemma setAll_ofList (r : Record) (fields : List (String × Json)) :
    r.setAll (Entries.ofList fields) = r.setAll fields := by
  induction fields using List.reverseRecOn with
  | nil => rfl
  | append_singleton fields f ih =>
    rw [Entries.ofList_eq_insertAll, Entries.insertAll_concat, ← Entries.ofList_eq_insertAll,
      setAll_insert (Entries.ascending_ofList fields), ih, setAll_concat]

/-- Fields make the same record of every entry exactly if each key has the same last value. -/
lemma forall_setAll_eq_iff :
    (∀ r : Record, r.setAll fields = r.setAll fields') ↔
      ∀ key, lastValue? key fields = lastValue? key fields' := by
  constructor
  · intro h key
    have hempty := congrArg (fun r => r.get? key) (h ⟨.object []⟩)
    simpa [setAll_object, get?, Entries.lookup_insertAll] using hempty
  · intro h r
    rw [← setAll_ofList, Entries.ofList_eq_of_lastValue?_eq h, setAll_ofList]

/-! ### Ids -/

/-- Members hold the id that is set last, or the one from before. -/
lemma id?_object_insertAll (members fields : List (String × Json)) :
    (⟨.object (insertAll members fields)⟩ : Record).id? =
      (lastValue? "id" fields).elim (⟨.object members⟩ : Record).id? fun id => (new id).id? := by
  simp only [id?, RecordId.of?_eq_ofOption?, Json.get?_object, Entries.lookup_insertAll]
  cases lastValue? "id" fields <;> rfl

/-- Setting fields of an object leaves each key with the value that is set last, or the one from
before. The keys are those from before and those that are set, in ascending order if they were. The
id is the one that is set last, or the one from before. Any other entry stays as it is, without an
id. Fields with different keys can be set in any order; lists of fields make the same records
exactly if each key has the same last value. -/
theorem setAll_last_value_stays (r : Record) (fields : List (String × Json)) :
    (∀ members, r.json = .object members →
      (∀ key, (r.setAll fields).get? key = (lastValue? key fields).or (r.get? key)) ∧
      ((r.setAll fields).id? = (lastValue? "id" fields).elim r.id? fun id => (new id).id?) ∧
      ∃ members', (r.setAll fields).json = .object members' ∧
        (∀ key, key ∈ members'.map Prod.fst ↔
          key ∈ members.map Prod.fst ∨ key ∈ fields.map Prod.fst) ∧
        (Ascending members → Ascending members')) ∧
    ((∀ members, r.json ≠ .object members) →
      r.setAll fields = r ∧ (∀ key, r.get? key = none) ∧ r.id? = some .absent) ∧
    ∀ fields',
      (Reordered fields fields' → r.setAll fields = r.setAll fields') ∧
      ((∀ entry : Record, entry.setAll fields = entry.setAll fields') ↔
        ∀ key, lastValue? key fields = lastValue? key fields') := by
  refine ⟨fun members hmembers => ?_, fun hother => ?_, fun fields' => ⟨fun hmoved => ?_, ?_⟩⟩
  · obtain ⟨json⟩ := r
    obtain rfl : json = .object members := hmembers
    rw [setAll_object]
    exact ⟨fun key => Entries.lookup_insertAll key members fields,
      id?_object_insertAll members fields, _, rfl, fun key => Entries.mem_keys_insertAll_iff,
      fun h => h.insertAll fields⟩
  · exact ⟨setAll_of_ne_object hother fields, get?_of_ne_object hother, id?_of_ne_object hother⟩
  · exact forall_setAll_eq_iff.mpr hmoved.lastValue?_eq r
  · exact forall_setAll_eq_iff

/-- The id is an array first, then a number, an object, and the number again. The amount is set in
between, or after all ids. An entry that is no object is left alone. -/
theorem setAll_last_value_stays_composite_ids :
    let one : Json := .number (.integer 1)
    let r := new (.array [one])
    let fields : List (String × Json) :=
      [("id", one), ("amt", .null), ("id", .object []), ("id", one)]
    let fields' : List (String × Json) :=
      [("id", one), ("id", .object []), ("id", one), ("amt", .null)]
    r.id? = none ∧ (r.setAll (fields.take 3)).id? = none ∧
      (r.setAll fields).id? = some (.integer 1) ∧ (r.setAll fields).get? "amt" = some .null ∧
      Reordered fields fields' ∧ r.setAll fields = r.setAll fields' ∧
      (∀ members, (mk one).json ≠ .object members) ∧ (mk one).setAll fields = mk one := by
  intro one r fields fields'
  have hmoved : Reordered fields fields' := by
    intro key
    by_cases hkey : "amt" = key
    · subst hkey
      rfl
    · simp [fields, fields', Entries.valuesOf, List.filter_cons, hkey]
  have hone : ∀ members, (mk one).json ≠ .object members := by simp [one]
  obtain ⟨hobject, -, horder⟩ := setAll_last_value_stays r fields
  obtain ⟨hget, hid, -⟩ := hobject _ rfl
  obtain ⟨-, hthird, -⟩ := (setAll_last_value_stays r (fields.take 3)).1 _ rfl
  exact ⟨rfl, hthird, hid, hget "amt", hmoved, (horder fields').1 hmoved, hone,
    ((setAll_last_value_stays ⟨one⟩ fields).2.1 hone).1⟩

end Record

end EntitySync
