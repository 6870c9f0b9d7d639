import AccessControl.Proofs.MemberOrder
import AccessControl.Rule.Document

/-!
# What a written rule tells

A rule is written as a JSON value from which everything about it can be read off: two rules that are
written the same, up to the order of members, are equal, however deep their conditions go. A set of
values is written in one way only, whatever list it was built from: the identifiers in ascending
order, then the texts. Main statement: `toJson_faithful`.
-/

set_option autoImplicit false

namespace AccessControl

/-! ## Names and values -/

/-- No two attributes have one document. -/
theorem Attribute.eq_of_same (a b : Attribute) (h : Json.Same a.toJson b.toJson) : a = b := by
  have hname : b.name = a.name := Json.text.inj ((Json.same_text_iff _ _).mp h)
  have hread := congrArg Attribute.ofName? hname
  rw [Attribute.ofName?_name, Attribute.ofName?_name] at hread
  exact (Option.some.inj hread).symm

/-- No two types have one document. -/
theorem EntityType.eq_of_same (s t : EntityType) (h : Json.Same s.toJson t.toJson) : s = t := by
  have hname : t.name = s.name := Json.text.inj ((Json.same_text_iff _ _).mp h)
  have hread := congrArg EntityType.ofName? hname
  rw [EntityType.ofName?_name, EntityType.ofName?_name] at hread
  exact (Option.some.inj hread).symm

/-- Texts that are the same as documents are the same. -/
theorem eq_of_same_text (x y : String) (h : Json.Same (.text x) (.text y)) : x = y :=
  (Json.text.inj ((Json.same_text_iff _ _).mp h)).symm

namespace AttributeValue

/-- An identifier is never written like a text, not even like the text that spells it. -/
theorem eq_of_same (v w : AttributeValue) (h : Json.Same v.toJson w.toJson) : v = w := by
  cases v with
  | number a =>
      have hjson := (Json.same_integer_iff _ _).mp h
      cases w with
      | number b => rw [Int64.toInt_inj.mp (Json.integer.inj hjson)]
      | text y => cases hjson
  | text x =>
      have hjson := (Json.same_text_iff _ _).mp h
      cases w with
      | number b => cases hjson
      | text y => rw [Json.text.inj hjson]

end AttributeValue

/-! ## Conditions -/

namespace Condition

/-- The members of a written condition. -/
def members : Condition → List (String × Json)
  | .equals a value => [("op", .text "eq"), ("attr", a.toJson), ("value", value.toJson)]
  | .oneOf a values =>
    [("op", .text "in"), ("attr", a.toJson),
      ("values", .array (values.toList.map AttributeValue.toJson))]
  | .all conditions => [("op", .text "all"), ("conditions", .array (allToJson conditions))]

def op : Condition → String
  | .equals _ _ => "eq"
  | .oneOf _ _ => "in"
  | .all _ => "all"

/-- The document of a condition is an object of its members. -/
theorem toJson_eq_object (c : Condition) : c.toJson = .object c.members := by
  cases c <;> rfl

/-- No member of a condition has the name of another. -/
theorem nodup_names (c : Condition) : (c.members.map Prod.fst).Nodup := by
  cases c <;> simp [members]

/-- Every condition has a member that says of which kind it is. -/
theorem op_mem_members (c : Condition) : ("op", .text c.op) ∈ c.members := by
  cases c <;> exact List.mem_cons_self

section

variable {c d : Condition}

/-- Conditions whose documents are the same have the same members. -/
theorem sameMembers_of_same (h : Json.Same c.toJson d.toJson) :
    Json.SameMembers c.members d.members := by
  rw [toJson_eq_object, toJson_eq_object, Json.same_object_iff] at h
  exact h

/-- Conditions whose documents are the same are of one kind. -/
theorem op_eq_of_same (h : Json.Same c.toJson d.toJson) : c.op = d.op :=
  eq_of_same_text c.op d.op (Json.same_of_sameMembers (sameMembers_of_same h) "op" _ _ d.nodup_names
    c.op_mem_members d.op_mem_members)

/-- What both conditions are written with under a name is the same. -/
theorem same_of_mem (h : Json.Same c.toJson d.toJson) (name : String) (value other : Json)
    (hvalue : (name, value) ∈ c.members) (hother : (name, other) ∈ d.members) :
    Json.Same value other :=
  Json.same_of_sameMembers (sameMembers_of_same h) name value other d.nodup_names hvalue hother

end

mutual

/-- No two conditions have documents that are the same. -/
theorem eq_of_same : (c d : Condition) → Json.Same c.toJson d.toJson → c = d
  | .equals a value, .equals b other, h => by
    have hattr := a.eq_of_same b (same_of_mem h "attr" _ _ (by simp [members]) (by simp [members]))
    have hvalue := value.eq_of_same other
      (same_of_mem h "value" _ _ (by simp [members]) (by simp [members]))
    rw [hattr, hvalue]
  | .oneOf a values, .oneOf b others, h => by
    have hattr := a.eq_of_same b (same_of_mem h "attr" _ _ (by simp [members]) (by simp [members]))
    have hvalues : Json.Same (.array (values.toList.map AttributeValue.toJson))
        (.array (others.toList.map AttributeValue.toJson)) :=
      same_of_mem h "values" _ _ (by simp [members]) (by simp [members])
    rw [Json.same_array_iff] at hvalues
    have hlists := Json.eq_of_sameItems_map _ AttributeValue.eq_of_same _ _ hvalues
    rw [hattr, Std.ExtTreeSet.toList_inj.mp hlists]
  | .all conditions, .all others, h => by
    have hitems : Json.Same (.array (allToJson conditions)) (.array (allToJson others)) :=
      same_of_mem h "conditions" _ _ (by simp [members]) (by simp [members])
    rw [Json.same_array_iff] at hitems
    rw [eq_of_sameItems conditions others hitems]
  | .equals _ _, .oneOf _ _, h | .equals _ _, .all _, h | .oneOf _ _, .equals _ _, h
  | .oneOf _ _, .all _, h | .all _, .equals _ _, h | .all _, .oneOf _ _, h =>
    absurd (op_eq_of_same h) (by simp [op])

/-- No two lists of conditions have documents that are the same. -/
theorem eq_of_sameItems :
    (cs ds : List Condition) → Json.SameItems (allToJson cs) (allToJson ds) → cs = ds
  | [], [], _ => rfl
  | [], d :: ds, h => by simp [allToJson, Json.SameItems] at h
  | c :: cs, [], h => by simp [allToJson, Json.SameItems] at h
  | c :: cs, d :: ds, h => by
    rw [allToJson, allToJson, Json.SameItems] at h
    obtain ⟨other, rest, hsplit, hfirst, hrest⟩ := h
    obtain ⟨rfl, rfl⟩ := List.cons.inj hsplit
    rw [eq_of_same c d hfirst, eq_of_sameItems cs ds hrest]

end

end Condition

/-! ## Rules -/

namespace Rule

/-- The members of a written rule. -/
def members (r : Rule) : List (String × Json) :=
  [("actions", Json.ofTexts r.actions), ("subject", r.subject.toJson)] ++
    (r.condition.map fun c => ("condition", c.toJson)).toList ++
    [("instance_only", .bool r.instanceOnly)]

/-- No member of a rule has the name of another. -/
theorem nodup_names (r : Rule) : (r.members.map Prod.fst).Nodup := by
  unfold members
  cases r.condition <;> simp

/-- A rule is written with a condition only if it has one. -/
theorem condition_mem_names_iff (r : Rule) :
    "condition" ∈ r.members.map Prod.fst ↔ r.condition.isSome := by
  unfold members
  cases r.condition <;> simp

/-- The condition of a rule, if there is one, is a member of its document. -/
theorem condition_mem_members (r : Rule) (c : Condition) (h : r.condition = some c) :
    ("condition", c.toJson) ∈ r.members := by
  unfold members
  simp [h]

/-- Rules whose members are the same have the same condition, or none. -/
theorem condition_eq_of_same (r s : Rule) (h : Json.SameMembers r.members s.members) :
    r.condition = s.condition := by
  -- The names tell whether there is a condition, before any values are compared.
  have hnames : "condition" ∈ s.members.map Prod.fst ↔ "condition" ∈ r.members.map Prod.fst :=
    (Json.names_perm_of_sameMembers h).mem_iff
  rw [condition_mem_names_iff, condition_mem_names_iff] at hnames
  cases hr : r.condition with
  | none =>
      rw [hr, Option.isSome_none] at hnames
      exact (Option.not_isSome_iff_eq_none.mp fun hsome => Bool.false_ne_true (hnames.mp hsome)).symm
  | some c =>
      rw [hr, Option.isSome_some] at hnames
      obtain ⟨d, hs⟩ := Option.isSome_iff_exists.mp (hnames.mpr rfl)
      have hsame := Json.same_of_sameMembers h "condition" _ _ s.nodup_names
        (r.condition_mem_members c hr) (s.condition_mem_members d hs)
      rw [hs, Condition.eq_of_same c d hsame]

/-- Rules that are written the same are equal, part by part. -/
theorem eq_of_same (r s : Rule) (h : Json.Same r.toJson s.toJson) : r = s := by
  have hmembers : Json.SameMembers r.members s.members := (Json.same_object_iff _ _).mp h
  have hsame (name : String) (value other : Json) (hvalue : (name, value) ∈ r.members)
      (hother : (name, other) ∈ s.members) : Json.Same value other :=
    Json.same_of_sameMembers hmembers name value other s.nodup_names hvalue hother
  have hactions : r.actions = s.actions := by
    have hlists : Json.Same (.array (r.actions.map .text)) (.array (s.actions.map .text)) :=
      hsame "actions" _ _ (by simp [members, Json.ofTexts]) (by simp [members, Json.ofTexts])
    exact Json.eq_of_sameItems_map _ eq_of_same_text _ _ ((Json.same_array_iff _ _).mp hlists)
  have hsubject : r.subject = s.subject :=
    r.subject.eq_of_same s.subject
      (hsame "subject" _ _ (by simp [members]) (by simp [members]))
  have hcondition : r.condition = s.condition := r.condition_eq_of_same s hmembers
  have hinstanceOnly : r.instanceOnly = s.instanceOnly := by
    have hflags : Json.Same (.bool r.instanceOnly) (.bool s.instanceOnly) :=
      hsame "instance_only" _ _ (by simp [members]) (by simp [members])
    exact (Json.bool.inj ((Json.same_bool_iff _ _).mp hflags)).symm
  cases r
  cases s
  exact (Rule.mk.injEq ..).mpr ⟨hactions, hsubject, hcondition, hinstanceOnly⟩

end Rule

/-! ## Sets of values -/

/-- Ascending values are identifiers first and then texts. -/
theorem AttributeValue.eq_numbers_append_texts (values : List AttributeValue)
    (h : values.Pairwise fun v w => compare v w = .lt) :
    values = (values.filterMap asNumber?).map .number ++ (values.filterMap asText?).map .text := by
  induction values with
  | nil => rfl
  | cons v values ih =>
      obtain ⟨hfirst, hrest⟩ := List.pairwise_cons.mp h
      have hsplit := ih hrest
      cases v with
      | number id =>
          have hnumbers : (number id :: values).filterMap asNumber? =
            id :: values.filterMap asNumber? := rfl
          have htexts : (number id :: values).filterMap asText? = values.filterMap asText? := rfl
          rw [hnumbers, htexts, List.map_cons, List.cons_append, ← hsplit]
      | text content =>
          -- Nothing after a text is an identifier.
          have hnone : values.filterMap asNumber? = [] := by
            rw [List.filterMap_eq_nil_iff]
            intro w hw
            cases w with
            | number id => cases hfirst _ hw
            | text other => rfl
          have hnumbers : (text content :: values).filterMap asNumber? =
            values.filterMap asNumber? := rfl
          have htexts : (text content :: values).filterMap asText? =
            content :: values.filterMap asText? := rfl
          rw [hnone, List.map_nil, List.nil_append] at hsplit
          rw [hnumbers, htexts, hnone, List.map_nil, List.nil_append, List.map_cons, ← hsplit]

namespace ValueSet

variable (values : ValueSet)

/-- The identifiers of the set, as integers in ascending order. -/
def numbers : List Int :=
  (values.toList.filterMap AttributeValue.asNumber?).map Int64.toInt

/-- The texts of the set in ascending order. -/
def texts : List String :=
  values.toList.filterMap AttributeValue.asText?

/-- Values are written numbers first and then texts. -/
theorem map_toJson_toList :
    values.toList.map AttributeValue.toJson =
      values.numbers.map .integer ++ values.texts.map .text := by
  have hsplit := AttributeValue.eq_numbers_append_texts values.toList
    Std.ExtTreeSet.ordered_toList
  rw [hsplit, List.map_append, List.map_map, List.map_map, numbers, texts, List.map_map]
  rfl

/-- The numbers among some values are written in ascending order. -/
theorem pairwise_numbers : values.numbers.Pairwise (· < ·) := by
  rw [numbers, List.pairwise_map, List.pairwise_filterMap]
  refine Std.ExtTreeSet.ordered_toList.imp ?_
  intro v w hlt first hfirst second hsecond
  obtain rfl := (v.asNumber?_eq_some_iff first).mp hfirst
  obtain rfl := (w.asNumber?_eq_some_iff second).mp hsecond
  rw [← Int64.lt_iff_toInt_lt]
  exact compareOfLessAndEq_eq_lt.mp hlt

/-- The texts among some values are written in ascending order. -/
theorem pairwise_texts : values.texts.Pairwise (· < ·) := by
  rw [texts, List.pairwise_filterMap]
  refine Std.ExtTreeSet.ordered_toList.imp ?_
  intro v w hlt first hfirst second hsecond
  obtain rfl := (v.asText?_eq_some_iff first).mp hfirst
  obtain rfl := (w.asText?_eq_some_iff second).mp hsecond
  exact compareOfLessAndEq_eq_lt.mp hlt

/-- The numbers that are written are those among the values. -/
theorem mem_numbers_iff (n : Int) :
    n ∈ values.numbers ↔ ∃ id, .number id ∈ values ∧ id.toInt = n := by
  simp only [numbers, List.mem_map, List.mem_filterMap, AttributeValue.asNumber?_eq_some_iff,
    exists_eq_right, Std.ExtTreeSet.mem_toList]

/-- The texts that are written are those among the values. -/
theorem mem_texts_iff (content : String) :
    content ∈ values.texts ↔ .text content ∈ values := by
  simp only [texts, List.mem_filterMap, AttributeValue.asText?_eq_some_iff, exists_eq_right,
    Std.ExtTreeSet.mem_toList]

/-- Sets made of two lists are equal if the lists have the same values, in whatever order and
however often. -/
theorem ofList_eq_iff (xs ys : List AttributeValue) :
    (Std.ExtTreeSet.ofList xs : ValueSet) = Std.ExtTreeSet.ofList ys ↔ ∀ v, v ∈ xs ↔ v ∈ ys := by
  constructor
  · intro heq v
    rw [← mem_ofList_iff xs, heq, mem_ofList_iff ys]
  · intro hmem
    refine Std.ExtTreeSet.ext_mem ?_
    intro v
    rw [mem_ofList_iff, mem_ofList_iff, hmem v]

end ValueSet

namespace Condition

/-- Conditions for the same values are the same condition. -/
theorem isIn_eq_iff (attr : Attribute) (xs ys : List AttributeValue) :
    isIn attr xs = isIn attr ys ↔ ∀ v, v ∈ xs ↔ v ∈ ys := by
  rw [← ValueSet.ofList_eq_iff, isIn, isIn, oneOf.injEq, and_iff_right rfl]

/-- Different conditions have different documents. -/
theorem toJson_eq_iff (c d : Condition) : c.toJson = d.toJson ↔ c = d := by
  constructor
  · intro hjson
    refine c.eq_of_same d ?_
    rw [hjson]
    exact Json.same_refl _
  · exact congrArg toJson

/-- The document of a condition lists its values in one order, whatever list it was made of. -/
theorem toJson_isIn (attr : Attribute) (xs : List AttributeValue) :
    let values : ValueSet := Std.ExtTreeSet.ofList xs
    (isIn attr xs).toJson = .object [("op", .text "in"), ("attr", attr.toJson),
      ("values", .array (values.numbers.map .integer ++ values.texts.map .text))] := by
  intro values
  rw [isIn, toJson, values.map_toJson_toList]

end Condition

/-- What is written of a rule tells the rule, and a set of values is written in one way only: the
lists it can be built from are those with the same elements, and of these it lists the identifiers
in ascending order and then the texts in ascending order, each once. -/
theorem toJson_faithful :
    (∀ r s : Rule, Json.Same r.toJson s.toJson ↔ r = s) ∧
    (∀ (attr : Attribute) (xs ys : List AttributeValue),
      (Condition.isIn attr xs = Condition.isIn attr ys ↔ ∀ v, v ∈ xs ↔ v ∈ ys) ∧
      ((Condition.isIn attr xs).toJson = (Condition.isIn attr ys).toJson ↔ ∀ v, v ∈ xs ↔ v ∈ ys)) ∧
    ∀ (attr : Attribute) (xs : List AttributeValue), ∃ (numbers : List Int) (texts : List String),
      (Condition.isIn attr xs).toJson =
        .object [("op", .text "in"), ("attr", attr.toJson),
          ("values", .array (numbers.map .integer ++ texts.map .text))] ∧
      numbers.Pairwise (· < ·) ∧ (∀ n, n ∈ numbers ↔ ∃ id, .number id ∈ xs ∧ id.toInt = n) ∧
      texts.Pairwise (· < ·) ∧ ∀ content, content ∈ texts ↔ .text content ∈ xs := by
  refine ⟨?_, ?_, ?_⟩
  · intro r s
    constructor
    · exact r.eq_of_same s
    · rintro rfl
      exact Json.same_refl _
  · intro attr xs ys
    refine ⟨Condition.isIn_eq_iff attr xs ys, ?_⟩
    rw [Condition.toJson_eq_iff, Condition.isIn_eq_iff]
  · intro attr xs
    let values : ValueSet := Std.ExtTreeSet.ofList xs
    refine ⟨values.numbers, values.texts, Condition.toJson_isIn attr xs, values.pairwise_numbers,
      ?_, values.pairwise_texts, ?_⟩
    · intro n
      simp only [values.mem_numbers_iff, values, mem_ofList_iff]
    · intro content
      rw [values.mem_texts_iff, mem_ofList_iff]

/-- The text that spells an identifier is another value, written after it. -/
example : (Condition.isIn .projectId [.text "5", .number 5, .number (-3), .text "5"]).toJson =
    .object [("op", .text "in"), ("attr", .text "ProjectId"),
      ("values", .array [.integer (-3), .integer 5, .text "5"])] := by
  rfl

end AccessControl
