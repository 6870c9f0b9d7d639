import AccessControl.Proofs.RuleAttributes
import AccessControl.Record
import AccessControl.Registry

/-!
# Answers about entity types as a whole

On an entity type as a whole there is nothing for a condition to look at. The answer promises that
some entity of the type can be found on which the action is allowed, and it keeps the promise
because no rule is built whose condition nothing can meet: for each rule of a standard policy there
is a record, of the type's own kind, that has the value the rule looks for. What the answer leaves
out are the rules for single entities, of which there are three. Main statement:
`firstMatch_wholeType_exact`.
-/

set_option autoImplicit false

namespace AccessControl

/-! ## Specimens -/

/-- A project with everything that can be asked of it. -/
def ProjectRef.specimen (id : Identifier) (key : String) : ProjectRef := ⟨id, some id, some key⟩

/-- A record of a type in which every identifier is the same one and every framework has the same
key, and no link is missing. -/
def Record.specimen (id : Identifier) (key : String) : EntityType → Record
  | .project => .project id (some id) (some key)
  | .site => .site id (some key) (some (.specimen id key))
  | .nursery => .nursery id (some key) (some (.specimen id key))
  | .projectReport => .projectReport id (some key) (some (.specimen id key))
  | .siteReport => .siteReport id (some key) (some ⟨id, some (.specimen id key)⟩)
  | .nurseryReport => .nurseryReport id (some key) (some ⟨id, some (.specimen id key)⟩)
  | .organisation => .organisation id
  | .application => .application id (some id) (some key)
  | .formSubmission => .formSubmission id (some id) (some key) (some id)
  | .projectPitch => .projectPitch id (some id)
  | .fundingProgramme => .fundingProgramme id (some key)
  | .disturbance => .disturbance id (some ⟨some key, some (.specimen id key)⟩)
  | .trackingEntry => .trackingEntry id (some ⟨some key, some (.specimen id key)⟩)
  | .projectPolygon => .projectPolygon id (some (.specimen id key)) (some id)
  | .task => .task id (some (.specimen id key))
  | .media => .media id (some ⟨some key, some (.specimen id key)⟩) (some id)
  | .user => .user id (some id)

/-- The value that a specimen has of an attribute which it resolves. -/
def Attribute.specimenValue (id : Identifier) (key : String) : Attribute → AttributeValue
  | .frameworkKey => .text key
  | .id | .organisationId | .projectId | .createdBy => .number id

/-- A specimen is a record of its type. -/
theorem Record.type_specimen (id : Identifier) (key : String) (t : EntityType) :
    (specimen id key t).type = t := by
  cases t <;> rfl

/-- No standard policy has a grant that looks at an attribute which records of the type never
have. -/
theorem Record.attr_specimen (id : Identifier) (key : String) (t : EntityType) (g : Grant)
    (hg : g ∈ t.grants) (attr : Attribute) (hattr : g.attribute? = some attr) :
    (specimen id key t).attr attr = some (attr.specimenValue id key) := by
  have hresolved : ∀ g ∈ t.grants, ∀ attr ∈ g.attribute?,
      (specimen id key t).attr attr = some (attr.specimenValue id key) := by
    unfold EntityType.grants EntityType.clauses
    cases t
    all_goals simp only [List.map_cons, List.map_nil, List.forall_mem_cons, Grant.attribute?,
      Option.mem_some_iff, Option.not_mem_none, forall_eq', false_implies, implies_true,
      List.not_mem_nil, and_true, true_and]
    all_goals trivial
  exact hresolved g hg attr hattr

/-! ## Grants on single entities -/

namespace Grant

section

variable (a : Authority) (action : String) (t : EntityType) (g : Grant)

/-- No grant on single entities says anything about a type as a whole. -/
theorem instanceOnly_eq_false_of_confers_wholeType (h : g.Confers a action (.wholeType t)) :
    g.instanceOnly = false := by
  cases g with
  | author token actions =>
      obtain ⟨-, -, hnone⟩ := h
      exact hnone.elim
  | self actions =>
      obtain ⟨-, hnone⟩ := h
      exact hnone.elim
  | _ => rfl

/-- What a standard policy confers on a type as a whole it confers on some record of the type. -/
theorem exists_confers_specimen (hg : g ∈ t.grants) (h : g.Confers a action (.wholeType t)) :
    ∃ id key, g.Confers a action (.entity (Record.specimen id key t).entity) := by
  -- What the grant asks of a type as a whole names the value that the specimen is made of.
  cases g with
  | framework actions =>
      obtain ⟨hmem, key, hkey, -⟩ := h
      have hattr := Record.attr_specimen 0 key t (.framework actions) hg .frameworkKey rfl
      exact ⟨0, key, hmem, key, hkey, hattr⟩
  | frameworkReader held => exact ⟨0, "", h⟩
  | holder held actions => exact ⟨0, "", h⟩
  | organisation actions =>
      obtain ⟨hmem, hheld, id, hid, -⟩ := h
      have hattr := Record.attr_specimen id "" t (.organisation actions) hg .organisationId rfl
      exact ⟨id, "", hmem, hheld, id, hid, hattr⟩
  | monitor =>
      obtain ⟨hread, hheld, id, hid, -⟩ := h
      have hattr := Record.attr_specimen id "" t .monitor hg .projectId rfl
      exact ⟨id, "", hread, hheld, id, hid, hattr⟩
  | manager actions =>
      obtain ⟨hmem, hheld, id, hid, -⟩ := h
      have hattr := Record.attr_specimen id "" t (.manager actions) hg .projectId rfl
      exact ⟨id, "", hmem, hheld, id, hid, hattr⟩
  | author token actions => exact h.2.2.elim
  | self actions => exact h.2.elim

end

end Grant

/-! ## Rules for single entities -/

/-- The rules that say nothing about their type as a whole: everybody may read themselves, authors
may work on their form submissions, and curators may remove their own media in bulk. -/
def EntityType.singleEntityRules (user : Identifier) (tokens : TokenSet) : EntityType → List Rule
  | .user => [⟨["read"], .user, some (.equals .id (.number user)), true⟩]
  | .formSubmission =>
    if "manage-own" ∈ tokens then
      [⟨["read", "update"], .formSubmission, some (.equals .createdBy (.number user)), true⟩]
    else []
  | .media =>
    if "media-manage" ∈ tokens then
      [⟨["deleteBulk"], .media, some (.equals .createdBy (.number user)), true⟩]
    else []
  | _ => []

/-- Either all rules of a grant are for single entities, or none is. -/
theorem Grant.filter_instanceOnly_rules (a : Authority) (t : EntityType) (g : Grant) :
    (g.rules a t).filter (·.instanceOnly) = if g.instanceOnly then g.rules a t else [] := by
  have hkind : ∀ r ∈ g.rules a t, r.instanceOnly = g.instanceOnly := by
    intro r hr
    obtain ⟨condition, rfl⟩ := g.eq_of_mem_rules a t r hr
    rfl
  split
  next hsingle => exact List.filter_eq_self.mpr fun r hr => (hkind r hr).trans hsingle
  next hshared =>
    rw [List.filter_eq_nil_iff]
    intro r hr
    rwa [hkind r hr]

/-- The rules of a standard policy for single entities are those that are listed. -/
theorem filter_instanceOnly_standard (a : Authority) (t : EntityType) :
    ((Policy.standard t).rules a).filter (·.instanceOnly) =
      t.singleEntityRules a.user a.tokens := by
  have hheld (token : String) : (a.holds token = true) = (token ∈ a.tokens) :=
    propext (a.holds_iff token)
  rw [Policy.rules_standard]
  unfold EntityType.grants EntityType.clauses
  simp only [List.filter_flatMap, Grant.filter_instanceOnly_rules]
  cases t
  all_goals simp only [List.map_cons, List.map_nil, List.flatMap_cons, List.flatMap_nil,
    Grant.instanceOnly, Grant.rules, Bool.false_eq_true, if_true, if_false, List.nil_append,
    List.append_nil, hheld]
  all_goals rfl

/-- There is a record for every rule for single entities, which the rule covers for all of its
actions. -/
theorem EntityType.exists_record_of_mem_singleEntityRules (user : Identifier) (tokens : TokenSet)
    (t : EntityType) (r : Rule) (h : r ∈ t.singleEntityRules user tokens) :
    ∃ record : Record, record.type = t ∧
      ∀ action ∈ r.actions, r.Covers action (.entity record.entity) := by
  refine ⟨.specimen user "" t, Record.type_specimen user "" t, ?_⟩
  intro action haction
  unfold singleEntityRules at h
  cases t with
  | user =>
      obtain rfl := List.mem_singleton.mp h
      have hself : (Subject.entity (Record.specimen user "" .user).entity).Has .id
          (.number user) := rfl
      exact (Rule.covers_instanceOnly_iff _ _ _ action _).mpr ⟨haction, hself⟩
  | formSubmission =>
      simp only at h
      split at h
      · obtain rfl := List.mem_singleton.mp h
        have hauthor : (Subject.entity (Record.specimen user "" .formSubmission).entity).Has
            .createdBy (.number user) := rfl
        exact (Rule.covers_instanceOnly_iff _ _ _ action _).mpr ⟨haction, hauthor⟩
      · cases h
  | media =>
      simp only at h
      split at h
      · obtain rfl := List.mem_singleton.mp h
        have hauthor : (Subject.entity (Record.specimen user "" .media).entity).Has
            .createdBy (.number user) := rfl
        exact (Rule.covers_instanceOnly_iff _ _ _ action _).mpr ⟨haction, hauthor⟩
      · cases h
  | _ => cases h

/-! ## Whole types -/

section

variable (a : Authority) (action : String) (t : EntityType)

/-- An answer about a type as a whole promises no more than is kept for some record of the type. -/
theorem exists_covers_of_firstMatch_wholeType
    (h : (Rule.firstMatch ((Policy.standard t).rules a) action (.wholeType t)).index.isSome) :
    ∃ record : Record, record.type = t ∧ ∃ r ∈ (Policy.standard t).rules a,
      r.instanceOnly = false ∧ r.Covers action (.entity record.entity) := by
  obtain ⟨g, hg, hconfers⟩ := (isSome_firstMatch_standard_iff a action (.wholeType t)).mp h
  have hshared := g.instanceOnly_eq_false_of_confers_wholeType a action t hconfers
  obtain ⟨id, key, hspecimen⟩ := g.exists_confers_specimen a action t hg hconfers
  have htype := Record.type_specimen id key t
  refine ⟨.specimen id key t, htype, ?_⟩
  obtain ⟨r, hr, hcovers⟩ := (g.exists_mem_rules_covers_iff a action _).mpr hspecimen
  have hrules : r ∈ g.rules a t := htype ▸ hr
  refine ⟨r, (Policy.mem_rules_standard_iff t a r).mpr ⟨g, hg, hrules⟩, ?_, hcovers⟩
  obtain ⟨condition, rfl⟩ := g.eq_of_mem_rules a t r hrules
  exact hshared

/-- A whole type is allowed exactly if some rule that is not for single entities covers some record
of the type. -/
theorem isSome_firstMatch_wholeType_iff :
    (Rule.firstMatch ((Policy.standard t).rules a) action (.wholeType t)).index.isSome ↔
      ∃ record : Record, record.type = t ∧ ∃ r ∈ (Policy.standard t).rules a,
        r.instanceOnly = false ∧ r.Covers action (.entity record.entity) := by
  refine ⟨exists_covers_of_firstMatch_wholeType a action t, ?_⟩
  rintro ⟨record, rfl, r, hr, hshared, hcovers⟩
  rw [Rule.isSome_index_firstMatch_iff]
  exact ⟨r, hr, r.covers_wholeType_of_covers action record.entity hshared hcovers⟩

/-- The rules for single entities are those among the rules of the policy. -/
theorem mem_singleEntityRules_iff (r : Rule) :
    r ∈ t.singleEntityRules a.user a.tokens ↔
      r ∈ (Policy.standard t).rules a ∧ r.instanceOnly = true := by
  rw [← filter_instanceOnly_standard a t, List.mem_filter]

/-- What is allowed on some record of a type is allowed on the type as a whole, or a rule for single
entities confers it. -/
theorem exists_record_allowed_iff :
    let rules := (Policy.standard t).rules a
    (∃ record : Record, record.type = t ∧
        (Rule.firstMatch rules action (.entity record.entity)).index.isSome) ↔
      (Rule.firstMatch rules action (.wholeType t)).index.isSome ∨
        ∃ r ∈ t.singleEntityRules a.user a.tokens, action ∈ r.actions := by
  intro rules
  rw [isSome_firstMatch_wholeType_iff]
  simp only [Rule.isSome_index_firstMatch_iff]
  constructor
  · rintro ⟨record, htype, r, hr, hcovers⟩
    cases hkind : r.instanceOnly with
    | false => exact Or.inl ⟨record, htype, r, hr, hkind, hcovers⟩
    | true =>
        have hsingle := (mem_singleEntityRules_iff a t r).mpr ⟨hr, hkind⟩
        exact Or.inr ⟨r, hsingle, (r.grants_iff action).mp hcovers.2.1⟩
  · rintro (⟨record, htype, r, hr, -, hcovers⟩ | ⟨r, hsingle, haction⟩)
    · exact ⟨record, htype, r, hr, hcovers⟩
    · obtain ⟨record, htype, hcovers⟩ :=
        t.exists_record_of_mem_singleEntityRules a.user a.tokens r hsingle
      have hr := ((mem_singleEntityRules_iff a t r).mp hsingle).1
      exact ⟨record, htype, r, hr, hcovers action haction⟩

end

/-- A standard policy allows an action on a type as a whole exactly when some rule that is not for
single entities matches some record of the type. The rules for single entities are three, and they
account for all that is allowed on some record and not on the type as a whole. -/
theorem firstMatch_wholeType_exact (t : EntityType) (user : Identifier) (tokens : TokenSet)
    (m : Membership) (action : String) :
    ∃ policy, Registry.standard.policy? t = some policy ∧
      let rules := policy.rules ⟨user, tokens, m⟩
      ((Rule.firstMatch rules action (.wholeType t)).index.isSome ↔
        ∃ record : Record, record.type = t ∧
          ∃ r ∈ rules, r.instanceOnly = false ∧
            (r.matchesEntity action (.start record.entity)).1 = true) ∧
      rules.filter (·.instanceOnly) = t.singleEntityRules user tokens ∧
      ((∃ record : Record, record.type = t ∧
          (Rule.firstMatch rules action (.entity record.entity)).index.isSome) ↔
        (Rule.firstMatch rules action (.wholeType t)).index.isSome ∨
          ∃ r ∈ t.singleEntityRules user tokens, action ∈ r.actions) := by
  refine ⟨.standard t, Registry.policy?_standard t, ?_⟩
  intro rules
  simp only [Rule.matchesEntity_start_iff]
  have hexact := isSome_firstMatch_wholeType_iff ⟨user, tokens, m⟩ action t
  have hsingle := filter_instanceOnly_standard ⟨user, tokens, m⟩ t
  have hrest := exists_record_allowed_iff ⟨user, tokens, m⟩ action t
  exact ⟨hexact, hsingle, hrest⟩

end AccessControl
