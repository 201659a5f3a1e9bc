import EntitySync.Proofs.Grammar
import EntitySync.Proofs.Json.Printed
import EntitySync.Proofs.RoundTrip

/-!
# What is folded can be printed

The target of an operation stands at least three levels below the top of its instruction, and ends
up one level below the top of the state. So a state that is folded from texts does not nest deeper
than a parser goes, and comes back from what is printed of it.
-/

namespace EntitySync

open Json (Readable)

variable {levels : ℕ} {v : Json}

/-! ### Targets -/

lemma Entries.mem_of_lookup_eq_some {β : Type} {entries : List (String × β)} {key : String} {b : β}
    (h : entries.lookup key = some b) : (key, b) ∈ entries := by
  induction entries with
  | nil => cases h
  | cons head rest ih =>
    obtain ⟨k, b'⟩ := head
    rw [List.lookup_cons] at h
    split at h
    next hkey =>
      obtain rfl := Option.some.inj h
      rw [beq_iff_eq.mp hkey]
      exact List.mem_cons_self
    next => exact List.mem_cons_of_mem _ (ih h)

lemma Json.Readable.of_lookup {members : List (String × Json)} {key : String}
    (h : Readable (levels + 1) (.object members)) (hlookup : members.lookup key = some v) :
    Readable levels v := by
  obtain ⟨-, hmembers⟩ := Json.readable_object_iff.mp h
  exact hmembers _ (Entries.mem_of_lookup_eq_some hlookup)

lemma Operation.WrittenAs.readable_target {o : Operation} (hwritten : o.WrittenAs v)
    (h : v.Readable (levels + 1)) : o.target.Readable levels := by
  cases hwritten with
  | object _ _ _ htarget => exact h.of_lookup htarget
  | array => exact Json.readable_array_iff.mp h _ (by simp)

namespace Instruction

variable {i : Instruction} {o : Operation}

lemma readable_target_of_decodeOperations {ops : List Operation}
    (hdecode : decodeOperations v = .ok ops) (h : v.Readable (levels + 2)) (ho : o ∈ ops) :
    o.target.Readable levels := by
  obtain ⟨es, rfl, hwritten⟩ := decodeOperations_eq_ok_iff.mp hdecode
  have helements := Json.readable_array_iff.mp h
  clear h hdecode
  induction hwritten with
  | nil => cases ho
  | cons hfirst _ ih =>
    rcases List.mem_cons.mp ho with rfl | ho
    · exact hfirst.readable_target (helements _ List.mem_cons_self)
    · exact ih ho fun e he => helements e (List.mem_cons_of_mem _ he)

/-- The target of an operation nests three levels less than its instruction does. -/
lemma readable_target (hi : ofJson v = .ok i) (h : v.Readable (levels + 3))
    (ho : o ∈ i.operations) : o.target.Readable levels := by
  -- There is an operation, so its list is there, in whichever place the encoding has it.
  have hpart : ∀ {part : Option Json}, Decode.Part decodeOperations [] part i.operations →
      (∀ w, part = some w → w.Readable (levels + 2)) → o.target.Readable levels := by
    intro part hpart hreadable
    cases hops : i.operations with
    | nil =>
      rw [hops] at ho
      cases ho
    | cons first rest =>
      rw [hops] at hpart ho
      cases hpart with
      | present hdecode => exact readable_target_of_decodeOperations hdecode (hreadable _ rfl) ho
  cases ofJson_eq_ok_iff.mp hi with
  | object hoperations => exact hpart hoperations fun w hw => h.of_lookup hw
  | array _ hoperations =>
    exact hpart hoperations fun w hw =>
      Json.readable_array_iff.mp h w (List.mem_of_getElem? hw)

end Instruction

/-! ### States -/

namespace Snapshot

variable {s t : Snapshot} {entityType : EntityType} {c : Collection} {o : Operation}
  {ops : List Operation}

/-- A state nests one level more than its collections. -/
lemma readable_toJson_iff :
    s.toJson.Readable (levels + 1) ↔ ∀ e ∈ s.collections.entries, e.2.toJson.Readable levels := by
  constructor
  · intro h e he
    cases h with
    | object _ hmembers => exact hmembers (e.1, e.2.toJson) (List.mem_map_of_mem he)
  · intro h
    refine .object (s.collections.ascending.map Collection.toJson) fun m hm => ?_
    obtain ⟨e, he, rfl⟩ := List.mem_map.mp hm
    exact h e he

lemma readable_of_get? (h : s.toJson.Readable (levels + 1)) (hget : s.get? entityType = some c) :
    c.toJson.Readable levels :=
  readable_toJson_iff.mp h (entityType, c) (Entries.mem_of_lookup_eq_some hget)

lemma readable_set (h : s.toJson.Readable (levels + 1)) (hc : c.toJson.Readable levels) :
    (s.set entityType c).toJson.Readable (levels + 1) := by
  refine readable_toJson_iff.mpr fun e he => ?_
  rcases Entries.mem_insert he with rfl | he
  · exact hc
  · exact readable_toJson_iff.mp h e he

lemma readable_of_ofJson (hs : ofJson v = .ok s) (h : v.Readable levels) :
    s.toJson.Readable levels := by
  cases h with
  | @object levels members hkeys hmembers =>
    have hread := ofJson_entries ⟨members, hkeys⟩
    rw [hs, Except.ok.injEq] at hread
    rw [hread, toJson_map_ofJson]
    exact .object hkeys hmembers
  | _ => cases hs

/-- Held records nest two levels less than the state. -/
lemma Holds.readable {existing : List Record} {r : Record} (hheld : s.Holds entityType existing)
    (h : s.toJson.Readable (levels + 2)) (hr : r ∈ existing) : r.json.Readable levels := by
  cases hheld with
  | missing | null => cases hr
  | records hget =>
    exact Json.readable_array_iff.mp (readable_of_get? h hget) _ (List.mem_map_of_mem hr)
  | array hget =>
    obtain ⟨e, he, rfl⟩ := List.mem_map.mp hr
    exact Json.readable_array_iff.mp (readable_of_get? h hget) e he

lemma readable_records {entries : List Record} (h : ∀ r ∈ entries, r.json.Readable levels) :
    (Collection.records entries).toJson.Readable (levels + 1) := by
  refine .array fun e he => ?_
  obtain ⟨r, hr, rfl⟩ := List.mem_map.mp he
  exact h r hr

/-- A step keeps a state printable if the target of its operation is. -/
lemma Step.readable (hstep : s.Step o t) (h : s.toJson.Readable (levels + 2))
    (htarget : o.target.Readable (levels + 1)) : t.toJson.Readable (levels + 2) := by
  cases hstep with
  | overwrite entityType target =>
    refine readable_set h ?_
    rw [Collection.toJson_ofJson]
    exact htarget
  | @merge verb placement entityType existing entries _ hheld =>
    refine readable_set h (readable_records fun r hr => ?_)
    rcases Change.mem_or_mem_of_mem_place hr with hr | hr
    · exact hheld.readable h hr
    · obtain ⟨e, he, rfl⟩ := List.mem_map.mp hr
      exact Json.readable_array_iff.mp htarget e he
  | delete _ hheld =>
    refine readable_set h (readable_records fun r hr => ?_)
    exact hheld.readable h ((Record.unmatched_sublist _ _).mem hr)

lemma Run.readable (hrun : s.Run ops t) (h : s.toJson.Readable (levels + 2))
    (htargets : ∀ o ∈ ops, o.target.Readable (levels + 1)) : t.toJson.Readable (levels + 2) :=
  hrun.invariant (P := fun s => s.toJson.Readable (levels + 2))
    (fun o ho _ _ hs hstep => hstep.readable hs (htargets o ho)) h

end Snapshot

end EntitySync
