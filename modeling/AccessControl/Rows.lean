import AccessControl.Attribute

/-!
# Rows

What is on record of one user about organisations or projects, a row about each. Something new is
written over what the row says, and about what has no row yet in a new row at the end. Main
statement: `mem_keysWhere_iff`, as long as nothing has two rows, the rows found by what they say are
those found by what they are about.
-/

set_option autoImplicit false

namespace AccessControl

/-- Rows that each say something about one organisation or project, in the order in which they were
made. -/
structure Rows (α : Type) where
  entries : List (Identifier × α)

namespace Rows

variable {α : Type}

def empty : Rows α := ⟨[]⟩

/-- The entries after a value has been written about a key. -/
def put (key : Identifier) (value : α) : List (Identifier × α) → List (Identifier × α)
  | [] => [(key, value)]
  | entry :: entries =>
    if entry.1 = key then (key, value) :: entries else entry :: put key value entries

/-- The rows after a value has been written about a key: over the first row about it, or in a new
row at the end. -/
def write (rows : Rows α) (key : Identifier) (value : α) : Rows α :=
  ⟨put key value rows.entries⟩

/-- The rows that are not about a key. -/
def remove (rows : Rows α) (key : Identifier) : Rows α :=
  ⟨rows.entries.filter fun entry => entry.1 ≠ key⟩

/-- What the first row about a key says. -/
def value? (rows : Rows α) (key : Identifier) : Option α :=
  rows.entries.lookup key

/-- What the rows that say something of a kind are about, in their order. -/
def keysWhere (rows : Rows α) (keep : α → Bool) : List Identifier :=
  (rows.entries.filter fun entry => keep entry.2).map Prod.fst

/-- Nothing has two rows. -/
def Unique (rows : Rows α) : Prop :=
  (rows.entries.map Prod.fst).Nodup

/-- Among no rows there are no two with one key. -/
theorem unique_empty : (empty : Rows α).Unique := List.nodup_nil

/-- Without rows no key has a value. -/
theorem value?_empty (key : Identifier) : (empty : Rows α).value? key = none := rfl

/-- A key is looked up at the first entry, and behind it if it is not there. -/
theorem lookup_entry (key : Identifier) (entry : Identifier × α) (entries : List (Identifier × α)) :
    (entry :: entries).lookup key =
      if entry.1 = key then some entry.2 else entries.lookup key := by
  obtain ⟨about, value⟩ := entry
  by_cases h : about = key
  · simp [h]
  · have hne : (key == about) = false := beq_false_of_ne (Ne.symm h)
    rw [List.lookup_cons, hne, if_neg h]

/-- A key that was put has its new value, and every other key the one that it had. -/
theorem lookup_put (key other : Identifier) (value : α) (entries : List (Identifier × α)) :
    (put key value entries).lookup other =
      if key = other then some value else entries.lookup other := by
  induction entries with
  | nil => rw [put, lookup_entry]
  | cons entry entries ih =>
    rw [put]
    split
    next hentry =>
      rw [lookup_entry, lookup_entry, hentry]
      split <;> rfl
    next hentry =>
      rw [lookup_entry, lookup_entry, ih]
      split
      next hother =>
        have hkey : key ≠ other := fun h => hentry (hother.trans h.symm)
        rw [if_neg hkey]
      next => rfl

/-- Writing decides what is said about one key and nothing else. -/
theorem value?_write (rows : Rows α) (key other : Identifier) (value : α) :
    (rows.write key value).value? other = if key = other then some value else rows.value? other :=
  lookup_put key other value rows.entries

/-- After the rows about a key have been removed nothing is said about it. -/
theorem value?_remove (rows : Rows α) (key other : Identifier) :
    (rows.remove key).value? other = if key = other then none else rows.value? other := by
  unfold remove value?
  induction rows.entries with
  | nil => simp
  | cons entry entries ih =>
    by_cases hentry : entry.1 = key
    · rw [List.filter_cons_of_neg (by simpa using hentry), ih, lookup_entry, hentry]
      split <;> rfl
    · rw [List.filter_cons_of_pos (by simpa using hentry), lookup_entry, lookup_entry, ih]
      split
      next hother =>
        have hkey : key ≠ other := fun h => hentry (hother.trans h.symm)
        rw [if_neg hkey]
      next => rfl

/-- Putting a key adds no other key and loses none. -/
theorem mem_keys_put_iff (key other : Identifier) (value : α) (entries : List (Identifier × α)) :
    other ∈ (put key value entries).map Prod.fst ↔
      other = key ∨ other ∈ entries.map Prod.fst := by
  induction entries with
  | nil => simp [put]
  | cons entry entries ih =>
    rw [put]
    split
    next hentry => simp [hentry]
    next => rw [List.map_cons, List.mem_cons, ih, List.map_cons, List.mem_cons, or_left_comm]

/-- Writing gives nothing a second row. -/
theorem unique_write (rows : Rows α) (key : Identifier) (value : α) (h : rows.Unique) :
    (rows.write key value).Unique := by
  unfold Unique write at *
  obtain ⟨entries⟩ := rows
  induction entries with
  | nil => simp [put]
  | cons entry entries ih =>
    rw [List.map_cons, List.nodup_cons] at h
    rw [put]
    split
    next hentry => simpa [← hentry] using h
    next hentry =>
      rw [List.map_cons, List.nodup_cons, mem_keys_put_iff]
      refine ⟨?_, ih h.2⟩
      rintro (hkey | hmem)
      · exact hentry hkey
      · exact h.1 hmem

/-- Removing gives nothing a second row. -/
theorem unique_remove (rows : Rows α) (key : Identifier) (h : rows.Unique) :
    (rows.remove key).Unique :=
  h.sublist (List.filter_sublist.map Prod.fst)

/-- Where nothing has two rows, the rows found by what they say are those found by what they are
about. -/
theorem mem_keysWhere_iff (rows : Rows α) (keep : α → Bool) (key : Identifier) (h : rows.Unique) :
    key ∈ rows.keysWhere keep ↔ ∃ value, rows.value? key = some value ∧ keep value = true := by
  unfold keysWhere value? Unique at *
  obtain ⟨entries⟩ := rows
  induction entries with
  | nil => simp
  | cons entry entries ih =>
    obtain ⟨about, value⟩ := entry
    rw [List.map_cons, List.nodup_cons] at h
    have hrest := ih h.2
    simp only at hrest ⊢
    rw [lookup_entry]
    by_cases habout : about = key
    · -- The first row about the key is this one, and there is no other.
      have hnone : key ∉ (entries.filter fun entry => keep entry.2).map Prod.fst := by
        intro hmem
        apply h.1
        rw [habout]
        exact (List.filter_sublist.map Prod.fst).subset hmem
      rw [if_pos habout]
      cases hkeep : keep value <;> simp [hkeep, habout] at hnone ⊢
      exact hnone
    · rw [if_neg habout, ← hrest]
      cases hkeep : keep value <;> simp [hkeep, Ne.symm habout]

end Rows

end AccessControl
