import AccessControl.Proofs.Grants

/-!
# Authority adds up

Every grant takes at most one token and at most one organisation or project from the authority of a
user. So what a set of tokens allows is what its tokens allow one by one, together with what is
allowed without any token; and two memberships held together allow what either of them allows. Main
statement: `allowed_eq_union`, for every subject, entity types as a whole included.
-/

set_option autoImplicit false

namespace AccessControl

/-- The standard policy of a subject's type allows a user an action on the subject. -/
def Allowed (user : Identifier) (tokens : TokenSet) (m : Membership) (action : String)
    (s : Subject) : Prop :=
  (Rule.firstMatch ((Policy.standard s.type).rules ⟨user, tokens, m⟩) action s).index.isSome

/-- Everything that belongs to one of two memberships. -/
def Membership.join (m n : Membership) : Membership where
  organisations := m.organisations ∪ n.organisations
  managing := m.managing ∪ n.managing
  monitoring := m.monitoring ∪ n.monitoring

namespace Grant

section

variable (user : Identifier) (action : String) (s : Subject)

/-- With more tokens a grant confers no less. -/
theorem confers_of_subset (X Y : TokenSet) (m : Membership) (g : Grant)
    (hsubset : ∀ token ∈ X, token ∈ Y) (h : g.Confers ⟨user, X, m⟩ action s) :
    g.Confers ⟨user, Y, m⟩ action s := by
  cases g with
  | framework actions =>
      obtain ⟨hmem, key, ⟨hkey, hheld⟩, hhas⟩ := h
      exact ⟨hmem, key, ⟨hkey, hsubset _ hheld⟩, hhas⟩
  | frameworkReader held =>
      obtain ⟨hread, ⟨key, hkey, hheld⟩ | ⟨token, hmem, hheld⟩⟩ := h
      · exact ⟨hread, Or.inl ⟨key, hkey, hsubset _ hheld⟩⟩
      · exact ⟨hread, Or.inr ⟨token, hmem, hsubset _ hheld⟩⟩
  | holder held actions =>
      obtain ⟨hmem, token, htoken, hheld⟩ := h
      exact ⟨hmem, token, htoken, hsubset _ hheld⟩
  | organisation _ | monitor | manager _ | author _ _ =>
      obtain ⟨hmem, hheld, hhas⟩ := h
      exact ⟨hmem, hsubset _ hheld, hhas⟩
  | self actions => exact h

/-- Whatever a grant confers, it confers without tokens or through one of them. -/
theorem confers_of_one_token (X : TokenSet) (m : Membership) (g : Grant)
    (h : g.Confers ⟨user, X, m⟩ action s) :
    g.Confers ⟨user, ∅, m⟩ action s ∨ ∃ token ∈ X, g.Confers ⟨user, {token}, m⟩ action s := by
  have hself (token : String) : token ∈ ({token} : TokenSet) := Std.ExtTreeSet.mem_insert_self
  cases g with
  | framework actions =>
      obtain ⟨hmem, key, ⟨hkey, hheld⟩, hhas⟩ := h
      exact Or.inr ⟨_, hheld, hmem, key, ⟨hkey, hself _⟩, hhas⟩
  | frameworkReader held =>
      obtain ⟨hread, ⟨key, hkey, hheld⟩ | ⟨token, hmem, hheld⟩⟩ := h
      · exact Or.inr ⟨_, hheld, hread, Or.inl ⟨key, hkey, hself _⟩⟩
      · exact Or.inr ⟨_, hheld, hread, Or.inr ⟨token, hmem, hself _⟩⟩
  | holder held actions =>
      obtain ⟨hmem, token, htoken, hheld⟩ := h
      exact Or.inr ⟨_, hheld, hmem, token, htoken, hself _⟩
  | organisation _ | monitor | manager _ | author _ _ =>
      obtain ⟨hmem, hheld, hhas⟩ := h
      exact Or.inr ⟨_, hheld, hmem, hself _, hhas⟩
  | self actions => exact Or.inl h

/-- A grant confers through all of the tokens exactly what it confers through the single ones. -/
theorem confers_iff_one_token (X : TokenSet) (m : Membership) (g : Grant) :
    g.Confers ⟨user, X, m⟩ action s ↔
      g.Confers ⟨user, ∅, m⟩ action s ∨ ∃ token ∈ X, g.Confers ⟨user, {token}, m⟩ action s := by
  constructor
  · exact confers_of_one_token user action s X m g
  · rintro (hnone | ⟨token, hheld, hone⟩)
    · refine confers_of_subset user action s ∅ X m g ?_ hnone
      intro token hmem
      exact absurd hmem Std.ExtTreeSet.not_mem_empty
    · refine confers_of_subset user action s {token} X m g ?_ hone
      intro other hmem
      rw [Std.ExtTreeSet.singleton_eq_insert, Std.ExtTreeSet.mem_insert,
        Std.compare_eq_iff_eq] at hmem
      rcases hmem with rfl | hempty
      · exact hheld
      · exact absurd hempty Std.ExtTreeSet.not_mem_empty

/-- What holds of some identifier in a union holds of one in either part. -/
theorem exists_mem_union_iff (ids others : IdentifierSet) (P : Identifier → Prop) :
    (∃ id ∈ ids ∪ others, P id) ↔ (∃ id ∈ ids, P id) ∨ ∃ id ∈ others, P id := by
  simp only [Std.ExtTreeSet.mem_union_iff, or_and_right, exists_or]

/-- A grant confers on a joined membership exactly what it confers on either part. -/
theorem confers_join_iff (X : TokenSet) (m n : Membership) (g : Grant) :
    g.Confers ⟨user, X, m.join n⟩ action s ↔
      g.Confers ⟨user, X, m⟩ action s ∨ g.Confers ⟨user, X, n⟩ action s := by
  cases g with
  | organisation _ | monitor | manager _ =>
      simp only [Confers, Membership.join, exists_mem_union_iff, and_or_left]
  -- The other grants do not look at memberships.
  | framework _ | frameworkReader _ | holder _ _ | author _ _ | self _ => exact or_self_iff.symm

end

end Grant

/-- An action is allowed exactly if some grant of the type confers it. -/
theorem allowed_iff_exists_grant (user : Identifier) (X : TokenSet) (m : Membership)
    (action : String) (s : Subject) :
    Allowed user X m action s ↔ ∃ g ∈ s.type.grants, g.Confers ⟨user, X, m⟩ action s := by
  unfold Allowed
  exact isSome_firstMatch_standard_iff ⟨user, X, m⟩ action s

/-- An action is allowed without any token, or by a single one of those held. -/
theorem allowed_iff_one_token (user : Identifier) (X : TokenSet) (m : Membership)
    (action : String) (s : Subject) :
    Allowed user X m action s ↔
      Allowed user ∅ m action s ∨ ∃ token ∈ X, Allowed user {token} m action s := by
  simp only [allowed_iff_exists_grant]
  constructor
  · rintro ⟨g, hg, hconfers⟩
    rcases (g.confers_iff_one_token user action s X m).mp hconfers with hnone | ⟨token, hheld, hone⟩
    · exact Or.inl ⟨g, hg, hnone⟩
    · exact Or.inr ⟨token, hheld, g, hg, hone⟩
  · rintro (⟨g, hg, hnone⟩ | ⟨token, hheld, g, hg, hone⟩)
    · exact ⟨g, hg, (g.confers_iff_one_token user action s X m).mpr (Or.inl hnone)⟩
    · exact ⟨g, hg, (g.confers_iff_one_token user action s X m).mpr (Or.inr ⟨token, hheld, hone⟩)⟩

/-- Joined memberships allow what one of the two allows. -/
theorem allowed_join_iff (user : Identifier) (X : TokenSet) (m n : Membership) (action : String)
    (s : Subject) :
    Allowed user X (m.join n) action s ↔ Allowed user X m action s ∨ Allowed user X n action s := by
  simp only [allowed_iff_exists_grant, Grant.confers_join_iff, and_or_left, exists_or]

/-- Adding a token and memberships to an authority takes nothing away from it. -/
theorem allowed_of_less (user : Identifier) (X : TokenSet) (m n : Membership)
    (token action : String) (s : Subject) (h : Allowed user X m action s) :
    Allowed user (X.insert token) (m.join n) action s := by
  rw [allowed_join_iff]
  left
  rw [allowed_iff_one_token] at h ⊢
  rcases h with hnone | ⟨held, hheld, hone⟩
  · exact Or.inl hnone
  · exact Or.inr ⟨held, Std.ExtTreeSet.mem_insert.mpr (Or.inr hheld), hone⟩

/-- What a user is allowed is the union of what each token and each membership confers, so nothing
that is added to an authority takes anything away. -/
theorem allowed_eq_union (user : Identifier) (action : String) (s : Subject) :
    (∀ X m, Allowed user X m action s ↔
      Allowed user ∅ m action s ∨ ∃ token ∈ X, Allowed user {token} m action s) ∧
    (∀ X m n, Allowed user X (m.join n) action s ↔
      Allowed user X m action s ∨ Allowed user X n action s) ∧
    ∀ X m token n,
      Allowed user X m action s → Allowed user (X.insert token) (m.join n) action s := by
  refine ⟨?_, ?_, ?_⟩
  · intro X m
    exact allowed_iff_one_token user X m action s
  · intro X m n
    exact allowed_join_iff user X m n action s
  · intro X m token n hallowed
    exact allowed_of_less user X m n token action s hallowed

end AccessControl
