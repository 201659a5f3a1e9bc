/-!
# Dictionaries in key order

A dictionary is a list of entries whose text keys ascend strictly, so that two dictionaries with
the same entries are the same list. JSON objects keep their members and server states keep their
collections in this order.

The functions on plain entry lists come first: a JSON object holds such a list directly. `Dict`
bundles a list with the proof that its keys ascend.
-/

namespace EntitySync

variable {β γ : Type}

/-! ### Entry lists -/

namespace Entries

/-- The keys of the entries ascend strictly. -/
def Ascending (entries : List (String × β)) : Prop :=
  entries.Pairwise fun a b => a.1 < b.1

/-- Set the value of a key, keeping ascending order. -/
def insert (key : String) (value : β) : List (String × β) → List (String × β)
  | [] => [(key, value)]
  | (k, v) :: rest =>
    if key < k then (key, value) :: (k, v) :: rest
    else if key = k then (key, value) :: rest
    else (k, v) :: insert key value rest

/-- The entries inserted from left to right, so that the last value of a key stays. -/
def ofList (entries : List (String × β)) : List (String × β) :=
  entries.foldl (fun done e => insert e.1 e.2 done) []

/-- The entries with others inserted from left to right. -/
def insertAll (entries added : List (String × β)) : List (String × β) :=
  added.foldl (fun done e => insert e.1 e.2 done) entries

theorem ofList_eq_insertAll (entries : List (String × β)) : ofList entries = insertAll [] entries :=
  rfl

@[simp] theorem insertAll_nil (entries : List (String × β)) : insertAll entries [] = entries := rfl

@[simp] theorem insertAll_cons (entries added : List (String × β)) (e : String × β) :
    insertAll entries (e :: added) = insertAll (insert e.1 e.2 entries) added := rfl

@[simp] theorem insertAll_concat (entries added : List (String × β)) (e : String × β) :
    insertAll entries (added ++ [e]) = insert e.1 e.2 (insertAll entries added) := by
  simp [insertAll]

theorem ascending_nil : Ascending ([] : List (String × β)) := List.Pairwise.nil

/-- What is below the first key is below all keys. -/
theorem Ascending.forall_lt {key : String} {e : String × β} {rest : List (String × β)}
    (h : Ascending (e :: rest)) (hlt : key < e.1) : ∀ x ∈ e :: rest, key < x.1 := by
  intro x hx
  rcases List.mem_cons.1 hx with rfl | hx
  · exact hlt
  · exact String.lt_trans hlt ((List.pairwise_cons.1 h).1 x hx)

theorem mem_insert {key : String} {value : β} {e : String × β} {entries : List (String × β)} :
    e ∈ insert key value entries → e = (key, value) ∨ e ∈ entries := by
  induction entries with
  | nil => simp [insert]
  | cons head rest ih =>
    obtain ⟨k, v⟩ := head
    rw [insert]
    split
    · simp
    · split <;> grind

theorem mem_insertAll {e : String × β} {entries added : List (String × β)}
    (h : e ∈ insertAll entries added) : e ∈ added ∨ e ∈ entries := by
  induction added generalizing entries with
  | nil => exact Or.inr h
  | cons head added ih =>
    rcases ih h with h | h
    · exact Or.inl (List.mem_cons_of_mem head h)
    · rcases mem_insert h with rfl | h
      · exact Or.inl List.mem_cons_self
      · exact Or.inr h

theorem Ascending.insert {key : String} {value : β} {entries : List (String × β)}
    (h : Ascending entries) : Ascending (insert key value entries) := by
  induction entries with
  | nil => simp [Entries.insert, Ascending]
  | cons head rest ih =>
    obtain ⟨k, v⟩ := head
    have hrest : Ascending rest := (List.pairwise_cons.1 h).2
    have hhead : ∀ e ∈ rest, k < e.1 := (List.pairwise_cons.1 h).1
    rw [Entries.insert]
    split
    next hlt => exact List.pairwise_cons.2 ⟨h.forall_lt hlt, h⟩
    next hlt =>
      split
      next heq =>
        subst heq
        exact List.pairwise_cons.2 ⟨hhead, hrest⟩
      next hne =>
        refine List.pairwise_cons.2 ⟨fun e he => ?_, ih hrest⟩
        rcases mem_insert he with rfl | he
        · exact Std.lt_of_le_of_ne (String.not_lt.1 hlt) (Ne.symm hne)
        · exact hhead e he

theorem Ascending.insertAll {entries : List (String × β)} (h : Ascending entries)
    (added : List (String × β)) : Ascending (insertAll entries added) := by
  induction added generalizing entries with
  | nil => exact h
  | cons e added ih => exact ih h.insert

theorem ascending_ofList (entries : List (String × β)) : Ascending (ofList entries) :=
  ascending_nil.insertAll entries

@[simp] theorem lookup_insert_self (key : String) (value : β) (entries : List (String × β)) :
    (insert key value entries).lookup key = some value := by
  induction entries with
  | nil => simp [insert]
  | cons head rest ih =>
    obtain ⟨k, v⟩ := head
    rw [insert]
    split
    · simp
    · split
      · simp
      next hne =>
        have hbeq : (key == k) = false := by simpa using hne
        simp [List.lookup_cons, hbeq, ih]

theorem lookup_insert_of_ne {key other : String} (h : other ≠ key) (value : β)
    (entries : List (String × β)) :
    (insert key value entries).lookup other = entries.lookup other := by
  have hbeq : (other == key) = false := by simpa using h
  induction entries with
  | nil => simp [insert, List.lookup_cons, hbeq]
  | cons head rest ih =>
    obtain ⟨k, v⟩ := head
    rw [insert]
    split
    · simp [List.lookup_cons, hbeq]
    · split
      next heq =>
        subst heq
        simp [List.lookup_cons, hbeq]
      next => simp [List.lookup_cons, ih]

theorem lookup_insert (key other : String) (value : β) (entries : List (String × β)) :
    (insert key value entries).lookup other =
      if other = key then some value else entries.lookup other := by
  split
  next h => simp [h]
  next h => exact lookup_insert_of_ne h value entries

/-- Of two values for a key the second stays. -/
theorem insert_insert_self (key : String) (value value' : β) (entries : List (String × β)) :
    insert key value' (insert key value entries) = insert key value' entries := by
  induction entries with
  | nil => simp [insert]
  | cons head rest ih =>
    obtain ⟨k, v⟩ := head
    simp only [insert]
    split
    · simp [insert]
    · split
      next heq => simp [insert, heq]
      next hlt hne => simp [insert, hlt, hne, ih]

theorem insert_comm_of_lt {key other : String} (h : key < other) (value value' : β)
    (entries : List (String × β)) :
    insert key value (insert other value' entries) =
      insert other value' (insert key value entries) := by
  have hother : ¬ other < key := String.lt_asymm h
  have hne : other ≠ key := (Std.ne_of_lt h).symm
  induction entries with
  | nil => simp [insert, h, hother, hne]
  | cons head rest ih =>
    obtain ⟨k, v⟩ := head
    rcases Std.lt_trichotomy key k with hk | rfl | hk
    · -- the smaller key goes to the front, wherever the other one goes
      simp only [insert, hk, hother, hne, if_true, if_false]
      split
      · simp [insert, h]
      · split
        · simp [insert, h]
        · simp [insert, hk]
    · simp [insert, hother, hne]
    · have hlt : k < other := String.lt_trans hk h
      simp [insert, String.lt_asymm hk, String.lt_asymm hlt, (Std.ne_of_lt hk).symm,
        (Std.ne_of_lt hlt).symm, ih]

/-- Different keys can be set in either order, also in a list that does not ascend. -/
theorem insert_comm {key other : String} (h : key ≠ other) (value value' : β)
    (entries : List (String × β)) :
    insert key value (insert other value' entries) =
      insert other value' (insert key value entries) := by
  rcases Std.lt_trichotomy key other with hlt | heq | hlt
  · exact insert_comm_of_lt hlt value value' entries
  · exact absurd heq h
  · exact (insert_comm_of_lt hlt value' value entries).symm

theorem lookup_eq_none_iff {key : String} {entries : List (String × β)} :
    entries.lookup key = none ↔ key ∉ entries.map Prod.fst := by
  rw [List.lookup_eq_none_iff]
  simp only [bne_iff_ne, List.mem_map, not_exists, not_and]
  exact ⟨fun h e he hkey => h e he hkey.symm, fun h e he hkey => h e he hkey.symm⟩

theorem lookup_insertAll_of_nodup {added : List (String × β)} (h : (added.map Prod.fst).Nodup)
    (key : String) (entries : List (String × β)) :
    (insertAll entries added).lookup key = (added.lookup key).or (entries.lookup key) := by
  induction added generalizing entries with
  | nil => simp
  | cons e added ih =>
    obtain ⟨k, v⟩ := e
    obtain ⟨hk, hadded⟩ := List.nodup_cons.1 h
    rw [insertAll_cons, ih hadded, lookup_insert, List.lookup_cons]
    split
    next heq =>
      subst heq
      simp [lookup_eq_none_iff.2 hk]
    next hne =>
      have hbeq : (key == k) = false := by simpa using hne
      rw [hbeq]

/-- Entries with different keys are looked up as before after they have been inserted. -/
theorem lookup_ofList {entries : List (String × β)} (h : (entries.map Prod.fst).Nodup)
    (key : String) : (ofList entries).lookup key = entries.lookup key := by
  rw [ofList_eq_insertAll, lookup_insertAll_of_nodup h, List.lookup_nil, Option.or_none]

/-- A key below every key of the list has no entry. -/
theorem lookup_eq_none_of_lt {key : String} {entries : List (String × β)}
    (h : ∀ e ∈ entries, key < e.1) : entries.lookup key = none := by
  induction entries with
  | nil => rfl
  | cons head rest ih =>
    obtain ⟨k, v⟩ := head
    have hne : (key == k) = false := by
      simpa using Std.ne_of_lt (h (k, v) (by simp))
    simp [List.lookup_cons, hne, ih fun e he => h e (by simp [he])]

/-- No key below the first one of an ascending list has an entry. -/
theorem not_lt_of_lookup_eq_some {key : String} {value : β} {e : String × β}
    {rest : List (String × β)} (h : Ascending (e :: rest))
    (hkey : (e :: rest).lookup key = some value) : ¬ key < e.1 := by
  intro hlt
  rw [lookup_eq_none_of_lt (h.forall_lt hlt)] at hkey
  cases hkey

/-- Ascending lists with the same look-ups are the same list. -/
theorem ext_lookup {l₁ l₂ : List (String × β)} (h₁ : Ascending l₁) (h₂ : Ascending l₂)
    (h : ∀ key, l₁.lookup key = l₂.lookup key) : l₁ = l₂ := by
  induction l₁ generalizing l₂ with
  | nil =>
    cases l₂ with
    | nil => rfl
    | cons head rest =>
      obtain ⟨k, v⟩ := head
      simpa using h k
  | cons head₁ rest₁ ih =>
    obtain ⟨k₁, v₁⟩ := head₁
    cases l₂ with
    | nil => simpa using h k₁
    | cons head₂ rest₂ =>
      obtain ⟨k₂, v₂⟩ := head₂
      have low₁ : ∀ e ∈ rest₁, k₁ < e.1 := (List.pairwise_cons.1 h₁).1
      have low₂ : ∀ e ∈ rest₂, k₂ < e.1 := (List.pairwise_cons.1 h₂).1
      have hk : k₁ = k₂ := by
        have hlow : ¬ k₁ < k₂ :=
          not_lt_of_lookup_eq_some h₂ ((h k₁).symm.trans List.lookup_cons_self)
        have hhigh : ¬ k₂ < k₁ := not_lt_of_lookup_eq_some h₁ ((h k₂).trans List.lookup_cons_self)
        exact String.le_antisymm (String.not_lt.1 hhigh) (String.not_lt.1 hlow)
      subst hk
      have hv : v₁ = v₂ := by simpa using h k₁
      subst hv
      congr 1
      refine ih (List.pairwise_cons.1 h₁).2 (List.pairwise_cons.1 h₂).2 fun key => ?_
      by_cases hkey : key = k₁
      · subst hkey
        rw [lookup_eq_none_of_lt low₁, lookup_eq_none_of_lt low₂]
      · have hbeq : (key == k₁) = false := by simpa using hkey
        simpa [List.lookup_cons, hbeq] using h key

theorem insert_of_forall_lt {key : String} {entries : List (String × β)}
    (h : ∀ e ∈ entries, e.1 < key) (value : β) :
    insert key value entries = entries ++ [(key, value)] := by
  induction entries with
  | nil => rfl
  | cons head rest ih =>
    obtain ⟨k, v⟩ := head
    have hk : k < key := h (k, v) (by simp)
    simp [insert, String.lt_asymm hk, (Std.ne_of_lt hk).symm, ih fun e he => h e (by simp [he])]

theorem insertAll_of_ascending {entries added : List (String × β)}
    (h : Ascending (entries ++ added)) : insertAll entries added = entries ++ added := by
  induction added generalizing entries with
  | nil => simp
  | cons e added ih =>
    have hlow : ∀ x ∈ entries, x.1 < e.1 := fun x hx =>
      (List.pairwise_append.1 h).2.2 x hx e (by simp)
    rw [insertAll_cons, insert_of_forall_lt hlow, ih (by simpa using h), List.append_assoc,
      List.singleton_append]

/-- Inserting the entries of an ascending list again gives the list. -/
theorem ofList_of_ascending {entries : List (String × β)} (h : Ascending entries) :
    ofList entries = entries :=
  insertAll_of_ascending h

end Entries

/-! ### Dictionaries -/

/-- Entries whose keys ascend strictly. -/
structure Dict (β : Type) where
  entries : List (String × β)
  ascending : Entries.Ascending entries

namespace Dict

def empty : Dict β := ⟨[], Entries.ascending_nil⟩

instance : EmptyCollection (Dict β) := ⟨empty⟩

instance : Inhabited (Dict β) := ⟨empty⟩

/-- The entries inserted from left to right, so that the last value of a key stays. -/
def ofList (entries : List (String × β)) : Dict β :=
  ⟨Entries.ofList entries, Entries.ascending_ofList entries⟩

def get? (d : Dict β) (key : String) : Option β :=
  d.entries.lookup key

def insert (d : Dict β) (key : String) (value : β) : Dict β :=
  ⟨Entries.insert key value d.entries, d.ascending.insert⟩

/-- The keys, ascending. -/
def keys (d : Dict β) : List String :=
  d.entries.map Prod.fst

def size (d : Dict β) : Nat :=
  d.entries.length

@[simp] theorem get?_empty (key : String) : (empty : Dict β).get? key = none := rfl

@[simp] theorem get?_insert_self (d : Dict β) (key : String) (value : β) :
    (d.insert key value).get? key = some value :=
  Entries.lookup_insert_self key value d.entries

theorem get?_insert_of_ne {key other : String} (h : other ≠ key) (d : Dict β) (value : β) :
    (d.insert key value).get? other = d.get? other :=
  Entries.lookup_insert_of_ne h value d.entries

theorem get?_insert (d : Dict β) (key other : String) (value : β) :
    (d.insert key value).get? other = if other = key then some value else d.get? other :=
  Entries.lookup_insert key other value d.entries

theorem mem_keys_iff {d : Dict β} {key : String} :
    key ∈ d.keys ↔ ∃ value, d.get? key = some value := by
  rw [← Option.ne_none_iff_exists', get?, Ne, Entries.lookup_eq_none_iff, Decidable.not_not, keys]

theorem pairwise_keys (d : Dict β) : d.keys.Pairwise (· < ·) :=
  List.pairwise_map.2 d.ascending

/-- Dictionaries with the same look-ups are equal. -/
theorem ext_get? {d₁ d₂ : Dict β} (h : ∀ key, d₁.get? key = d₂.get? key) : d₁ = d₂ := by
  cases d₁
  cases d₂
  congr
  exact Entries.ext_lookup ‹_› ‹_› h

end Dict

end EntitySync
