import EntitySync.Proofs.Step

/-!
# Merging

A merge looks incoming ids up in a list. It gives what two nested loops over the records give: the
existing records that match no incoming one, in their order, with all incoming records behind or
before them.
-/

namespace EntitySync

namespace Snapshot

variable {s : Snapshot} {entityType : EntityType} {existing : List Record}

lemma records_of_get? {entries : List Record} (h : s.get? entityType = some (.records entries)) :
    s.records entityType = entries := by
  simp [records, h, Collection.records?]

lemma apply_merge {verb : Verb} {placement : Placement} (hverb : verb.placement? = some placement)
    (hheld : s.Holds entityType existing) (entries : List Json) :
    s.apply ⟨verb, entityType, .array entries⟩ = .ok (s.set entityType (.records
      (Change.place placement (Record.unmatched existing (entries.map Record.mk))
        (entries.map Record.mk)))) :=
  apply_eq_ok_iff.mpr (.merge entries hverb hheld)

/-- Merges agree with the nested loops, whatever the shapes of the entries. The kept records stay
as they were and in their order, every incoming entry is there, and the other collections do not
change. -/
theorem apply_merge_eq_unmatched (hheld : s.Holds entityType existing) (entries : List Json) :
    ∃ kept appended prepended,
      kept = Record.unmatched existing (entries.map Record.mk) ∧
      s.apply ⟨.merge, entityType, .array entries⟩ = .ok appended ∧
      s.apply ⟨.mergeAppend, entityType, .array entries⟩ = .ok appended ∧
      s.apply ⟨.mergePrepend, entityType, .array entries⟩ = .ok prepended ∧
      appended.get? entityType = some (.records (kept ++ entries.map Record.mk)) ∧
      prepended.get? entityType = some (.records (entries.map Record.mk ++ kept)) ∧
      kept.Sublist existing ∧
      (∀ entry ∈ entries, ⟨entry⟩ ∈ appended.records entityType ∧
        ⟨entry⟩ ∈ prepended.records entityType) ∧
      (appended.records entityType).length = kept.length + entries.length ∧
      (prepended.records entityType).length = kept.length + entries.length ∧
      ∀ other ≠ entityType, appended.get? other = s.get? other ∧
        prepended.get? other = s.get? other := by
  set kept := Record.unmatched existing (entries.map Record.mk) with hkept
  set appended := s.set entityType (.records (kept ++ entries.map Record.mk)) with happended
  set prepended := s.set entityType (.records (entries.map Record.mk ++ kept)) with hprepended
  have hget : appended.get? entityType = some (.records (kept ++ entries.map Record.mk)) := by
    simp [happended, get?_set]
  have hget' : prepended.get? entityType = some (.records (entries.map Record.mk ++ kept)) := by
    simp [hprepended, get?_set]
  refine ⟨kept, appended, prepended, rfl, ?_, ?_, ?_, hget, hget',
    Record.unmatched_sublist _ _, ?_, ?_, ?_, ?_⟩
  · exact apply_merge (rfl : Verb.merge.placement? = some .append) hheld entries
  · exact apply_merge (rfl : Verb.mergeAppend.placement? = some .append) hheld entries
  · exact apply_merge (rfl : Verb.mergePrepend.placement? = some .prepend) hheld entries
  · intro entry hentry
    rw [records_of_get? hget, records_of_get? hget', List.mem_append, List.mem_append]
    have hmem : (⟨entry⟩ : Record) ∈ entries.map Record.mk := List.mem_map_of_mem hentry
    exact ⟨Or.inr hmem, Or.inl hmem⟩
  · rw [records_of_get? hget, List.length_append, List.length_map]
  · rw [records_of_get? hget', List.length_append, List.length_map, Nat.add_comm]
  · intro other hne
    simp [happended, hprepended, get?_set, hne]

/-- An array kept as a plain value, with an entry that is no record, a number in two kinds and an
object as id: the entry and the number match, the object does not. -/
theorem apply_merge_eq_unmatched_mixed_ids :
    let three : Json := .number (.integer 3)
    let one : Json := .object [("id", .number (.integer 1))]
    let one' : Json := .object [("id", .number (.double ⟨false, 0x3FF0000000000000, by decide⟩))]
    let composite : Json := .object [("id", .object [("k", .null)])]
    let s := empty.set "Event" (.value (.array [three, one, composite]))
    s.Holds "Event" [⟨three⟩, ⟨one⟩, ⟨composite⟩] ∧
    ∃ next, s.apply ⟨.merge, "Event", .array [.string "x", one', composite]⟩ = .ok next ∧
      next.get? "Event" = some (.records [⟨composite⟩, ⟨.string "x"⟩, ⟨one'⟩, ⟨composite⟩]) := by
  intro three one one' composite s
  have hheld : s.Holds "Event" ([three, one, composite].map Record.mk) := .array rfl
  obtain ⟨kept, next, -, hkept, happly, -, -, hget, -⟩ :=
    apply_merge_eq_unmatched hheld [.string "x", one', composite]
  have hcomposite : kept = [⟨composite⟩] := hkept.trans rfl
  rw [hcomposite] at hget
  exact ⟨hheld, next, happly, hget⟩

end Snapshot

end EntitySync
