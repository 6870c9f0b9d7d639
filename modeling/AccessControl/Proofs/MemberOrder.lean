import Mathlib.Data.List.Nodup
import AccessControl.Json.Basic

/-!
# The order of members

Two JSON values are the same when they differ in nothing but the order in which objects name their
members, at any depth. What an object holds under a name does not depend on that order, as long as
the names are distinct. Main statements: `same_refl`, `same_of_sameMembers`.
-/

set_option autoImplicit false

namespace AccessControl.Json

mutual

/-- The values differ at most in the order of the members of objects. -/
def Same : Json → Json → Prop
  | .array items, w => ∃ others, w = .array others ∧ SameItems items others
  | .object members, w => ∃ others, w = .object others ∧ SameMembers members others
  | v, w => w = v

/-- The items are the same, one by one. -/
def SameItems : List Json → List Json → Prop
  | [], others => others = []
  | item :: items, others =>
    ∃ other rest, others = other :: rest ∧ Same item other ∧ SameItems items rest

/-- The members have the same names and under each of them the same value, in whatever order. -/
def SameMembers : List (String × Json) → List (String × Json) → Prop
  | [], others => others = []
  | (name, value) :: members, others =>
    ∃ other rest, others.Perm ((name, other) :: rest) ∧ Same value other ∧ SameMembers members rest

end

mutual

/-- Every document is the same as itself. -/
theorem same_refl : (v : Json) → Same v v
  | .null | .bool _ | .integer _ | .decimal _ | .text _ | .unpaired => by simp [Same]
  | .array items => by
    rw [Same]
    exact ⟨items, rfl, sameItems_refl items⟩
  | .object members => by
    rw [Same]
    exact ⟨members, rfl, sameMembers_refl members⟩

/-- Every list of items is the same as itself. -/
theorem sameItems_refl : (items : List Json) → SameItems items items
  | [] => by rw [SameItems]
  | item :: items => by
    rw [SameItems]
    exact ⟨item, items, rfl, same_refl item, sameItems_refl items⟩

/-- Every list of members is the same as itself. -/
theorem sameMembers_refl : (members : List (String × Json)) → SameMembers members members
  | [] => by rw [SameMembers]
  | (name, value) :: members => by
    rw [SameMembers]
    exact ⟨value, members, .refl _, same_refl value, sameMembers_refl members⟩

end

/-! ## Scalars and arrays -/

/-- A text is the same as no other document. -/
theorem same_text_iff (content : String) (w : Json) : Same (.text content) w ↔ w = .text content := by
  simp [Same]

/-- An integer is the same as no other document. -/
theorem same_integer_iff (n : Int) (w : Json) : Same (.integer n) w ↔ w = .integer n := by
  simp [Same]

/-- A truth value is the same as no other document. -/
theorem same_bool_iff (b : Bool) (w : Json) : Same (.bool b) w ↔ w = .bool b := by
  simp [Same]

/-- Arrays are the same if their items are, one by one. -/
theorem same_array_iff (items others : List Json) :
    Same (.array items) (.array others) ↔ SameItems items others := by
  simp [Same]

/-- Objects are the same if their members are, in any order. -/
theorem same_object_iff (members others : List (String × Json)) :
    Same (.object members) (.object others) ↔ SameMembers members others := by
  simp [Same]

/-- Lists whose items are written the same are equal, if this is so of single items. -/
theorem eq_of_sameItems_map {α : Type} (write : α → Json)
    (hwrite : ∀ x y, Same (write x) (write y) → x = y) (xs ys : List α)
    (h : SameItems (xs.map write) (ys.map write)) : xs = ys := by
  induction xs generalizing ys with
  | nil =>
      rw [List.map_nil, SameItems, List.map_eq_nil_iff] at h
      exact h.symm
  | cons x xs ih =>
      rw [List.map_cons, SameItems] at h
      obtain ⟨other, rest, hsplit, hfirst, hrest⟩ := h
      obtain ⟨y, ys, rfl, rfl, rfl⟩ := List.map_eq_cons_iff.mp hsplit
      rw [hwrite x y hfirst, ih ys hrest]

/-! ## Members -/

section

variable {members others : List (String × Json)}

/-- Objects that are the same have the same names of members, in some order. -/
theorem names_perm_of_sameMembers (h : SameMembers members others) :
    (others.map Prod.fst).Perm (members.map Prod.fst) := by
  induction members generalizing others with
  | nil =>
      rw [SameMembers] at h
      rw [h]
  | cons member members ih =>
      rw [SameMembers] at h
      obtain ⟨other, rest, hperm, -, hrest⟩ := h
      exact (hperm.map Prod.fst).trans ((ih hrest).cons member.1)

/-- Every member has a counterpart of its name in an object that is the same. -/
theorem exists_same_of_mem (h : SameMembers members others) (name : String) (value : Json)
    (hmem : (name, value) ∈ members) : ∃ other, (name, other) ∈ others ∧ Same value other := by
  induction members generalizing others with
  | nil => cases hmem
  | cons member members ih =>
      rw [SameMembers] at h
      obtain ⟨other, rest, hperm, hsame, hrest⟩ := h
      rcases List.mem_cons.mp hmem with rfl | hmem
      · exact ⟨other, hperm.mem_iff.mpr List.mem_cons_self, hsame⟩
      · obtain ⟨found, hfound, hsame⟩ := ih hrest hmem
        exact ⟨found, hperm.mem_iff.mpr (List.mem_cons_of_mem _ hfound), hsame⟩

/-- Distinct names name values without regard to their order. -/
theorem same_of_sameMembers (h : SameMembers members others) (name : String) (value other : Json)
    (hdistinct : (others.map Prod.fst).Nodup) (hmem : (name, value) ∈ members)
    (hother : (name, other) ∈ others) : Same value other := by
  obtain ⟨found, hfound, hsame⟩ := exists_same_of_mem h name value hmem
  -- The counterpart that was found is the value given, since no other has the name.
  have hpair : (name, found) = (name, other) :=
    List.inj_on_of_nodup_map hdistinct hfound hother rfl
  rw [(Prod.mk.inj hpair).2] at hsame
  exact hsame

end

end AccessControl.Json
