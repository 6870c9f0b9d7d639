import Mathlib.Data.List.Basic
import AccessControl.Proofs.FrameworkIsolation
import AccessControl.Text.Blank

/-!
# Tokens outside the vocabulary are inert

The standard policies consult the tokens of a user through six fixed texts and through the keys of
the frameworks that are granted. Users who agree on these get the same rules, in the same order, and
any other token may come or go unnoticed, however close to one of the six it is spelled. Main
statement: `rules_eq_of_agree`.
-/

set_option autoImplicit false

namespace AccessControl

namespace Token

/-- The six tokens with a fixed meaning. -/
def fixed : List String :=
  ["manage-own", "projects-manage", "projects-read", "view-dashboard", "users-manage",
    "media-manage"]

/-- Two sets hold the same of the six tokens, and the tokens of the same frameworks. -/
structure Agree (X Y : TokenSet) : Prop where
  fixed : ∀ token ∈ fixed, (token ∈ X ↔ token ∈ Y)
  frameworks : ∀ key, key ≠ "" → ("framework-" ++ key ∈ X ↔ "framework-" ++ key ∈ Y)

/-- A token that is none of the six and not the token of a framework. -/
structure Inert (token : String) : Prop where
  not_fixed : token ∉ fixed
  not_framework : ∀ key, key ≠ "" → token ≠ "framework-" ++ key

/-! ## Spellings -/

/-- The characters of the six tokens, and of the beginning of a framework token. -/
def letters : List Char := "abcdefghijklmnopqrstuvwxyz-".toList

/-- A way of leaving the case of letters aside, which keeps small letters and the hyphen apart. -/
def IgnoresCase (fold : Char → Char) : Prop :=
  ∀ c ∈ letters, ∀ d ∈ letters, fold c = fold d → c = d

/-- The characters of a text without its blanks, wherever they stand, and with case left aside. -/
def spelling (fold : Char → Char) (token : String) : List Char :=
  (token.toList.filter fun c => !Text.isBlank c).map fold

/-- The six tokens have small letters and hyphens, and no blanks. -/
theorem letters_of_mem_fixed (token : String) (h : token ∈ fixed) :
    (∀ c ∈ token.toList, c ∈ letters) ∧
      (token.toList.filter fun c => !Text.isBlank c) = token.toList := by
  have hall : ∀ token ∈ fixed, token.toList.all letters.contains = true ∧
      (token.toList.filter fun c => !Text.isBlank c) = token.toList := by decide +kernel
  obtain ⟨hletters, hplain⟩ := hall token h
  refine ⟨fun c hc => ?_, hplain⟩
  exact List.contains_iff_mem.mp (List.all_eq_true.mp hletters c hc)

/-- Where case is all that is left aside, letters can be told apart. -/
theorem eq_of_map_eq (fold : Char → Char) (hfold : IgnoresCase fold) (cs ds : List Char)
    (hcs : ∀ c ∈ cs, c ∈ letters) (hds : ∀ d ∈ ds, d ∈ letters) (h : cs.map fold = ds.map fold) :
    cs = ds := by
  induction cs generalizing ds with
  | nil => exact (List.map_eq_nil_iff.mp h.symm).symm
  | cons c cs ih =>
      cases ds with
      | nil => cases h
      | cons d ds =>
          rw [List.forall_mem_cons] at hcs hds
          rw [List.map_cons, List.map_cons, List.cons.injEq] at h
          rw [hfold c hcs.1 d hds.1 h.1, ih ds hcs.2 hds.2 h.2]

/-- Another spelling of one of the six tokens is none of the six. -/
theorem not_mem_fixed_of_respelled (fold : Char → Char) (hfold : IgnoresCase fold)
    (original token : String) (horiginal : original ∈ fixed) (hother : token ≠ original)
    (h : spelling fold token = spelling fold original) : token ∉ fixed := by
  intro htoken
  obtain ⟨hletters, hplain⟩ := letters_of_mem_fixed token htoken
  obtain ⟨hletters', hplain'⟩ := letters_of_mem_fixed original horiginal
  rw [spelling, spelling, hplain, hplain'] at h
  exact hother (String.toList_inj.mp (eq_of_map_eq fold hfold _ _ hletters hletters' h))

/-- No framework token is another spelling of one of the six. -/
theorem not_framework_of_respelled (fold : Char → Char) (hfold : IgnoresCase fold)
    (original key : String) (horiginal : original ∈ fixed) :
    spelling fold ("framework-" ++ key) ≠ spelling fold original := by
  intro h
  obtain ⟨hletters, hplain⟩ := letters_of_mem_fixed original horiginal
  -- None of the six begins with the letter that framework tokens begin with.
  have hbegins : (spelling fold ("framework-" ++ key)).head? = some (fold 'f') := by
    rw [spelling, String.toList_append, List.filter_append, List.map_append, List.head?_append]
    rfl
  have hfirst : ∀ t ∈ fixed, t.toList.head? ≠ none ∧ t.toList.head? ≠ some 'f' := by
    decide +kernel
  obtain ⟨hsome, hne⟩ := hfirst original horiginal
  obtain ⟨c, hc⟩ := Option.ne_none_iff_exists'.mp hsome
  rw [h, spelling, hplain, List.head?_map, hc, Option.map_some, Option.some.injEq] at hbegins
  have hmem : c ∈ letters := hletters c (List.mem_of_head? hc)
  have hsame : c = 'f' := hfold c hmem 'f' (by decide) hbegins
  exact hne (hsame ▸ hc)

/-- Another spelling of one of the six tokens is inert. -/
theorem inert_of_respelled (fold : Char → Char) (hfold : IgnoresCase fold)
    (original token : String) (horiginal : original ∈ fixed) (hother : token ≠ original)
    (h : spelling fold token = spelling fold original) : Inert token where
  not_fixed := not_mem_fixed_of_respelled fold hfold original token horiginal hother h
  not_framework := by
    rintro key - rfl
    exact not_framework_of_respelled fold hfold original key horiginal h

/-- The beginning of framework tokens is not the token of a framework. -/
theorem inert_frameworkMark : Inert "framework-" where
  not_fixed := by decide
  not_framework := by
    intro key hkey h
    have hlists := congrArg String.toList h
    rw [String.toList_append, List.self_eq_append_right] at hlists
    exact hkey (String.toList_inj.mp hlists)

/-- A text is inert that contains the beginning of framework tokens, but does not begin with it. -/
theorem inert_of_further_in (before after : String)
    (h : ∀ rest, before ++ "framework-" ++ after ≠ "framework-" ++ rest) :
    Inert (before ++ "framework-" ++ after) where
  not_fixed := by
    have hnone : ∀ t ∈ fixed, ¬ "framework-".toList <:+: t.toList := by
      decide +kernel
    intro hmem
    apply hnone _ hmem
    rw [String.toList_append, String.toList_append]
    exact ⟨before.toList, after.toList, rfl⟩
  not_framework key _ := h key

/-! ## Framework keys -/

/-- With an inert token, users agree on what they agreed on without it. -/
theorem agree_insert_of_inert (X : TokenSet) (token : String) (h : Inert token) :
    Agree (X.insert token) X where
  fixed other hother := by
    have hne : token ≠ other := by
      rintro rfl
      exact h.not_fixed hother
    rw [Std.ExtTreeSet.mem_insert, Std.compare_eq_iff_eq, or_iff_right hne]
  frameworks key hkey := by
    rw [Std.ExtTreeSet.mem_insert, Std.compare_eq_iff_eq, or_iff_right (h.not_framework key hkey)]

/-- Users who agree are granted the same frameworks. -/
theorem frameworkKeys_eq_of_agree (X Y : TokenSet) (h : Agree X Y) :
    frameworkKeys X = frameworkKeys Y := by
  apply Std.ExtTreeSet.ext_mem
  intro key
  rw [mem_frameworkKeys, mem_frameworkKeys]
  exact and_congr_right (h.frameworks key)

/-- Different framework tokens have different keys. -/
theorem eq_of_frameworkKey?_eq (token other key : String) (htoken : frameworkKey? token = some key)
    (hother : frameworkKey? other = some key) : token = other := by
  rw [frameworkKey?_eq_some_iff] at htoken hother
  exact htoken.2.trans hother.2.symm

/-- A key may itself begin the way framework tokens do. -/
theorem frameworkKey?_framework_framework (key : String) :
    frameworkKey? ("framework-" ++ ("framework-" ++ key)) = some ("framework-" ++ key) := by
  rw [frameworkKey?_eq_some_iff]
  refine ⟨?_, rfl⟩
  intro h
  have hlists := congrArg String.toList h
  rw [String.toList_append] at hlists
  exact absurd (List.append_eq_nil_iff.mp hlists).1 (by decide)

end Token

/-! ## Rules -/

/-- The rules of a grant depend on the tokens that the grant names and on the frameworks. -/
theorem Grant.rules_congr (user : Identifier) (X Y : TokenSet) (m : Membership) (t : EntityType)
    (g : Grant) (hnamed : ∀ token ∈ g.named, (token ∈ X ↔ token ∈ Y))
    (hkeys : Token.frameworkKeys X = Token.frameworkKeys Y) :
    g.rules ⟨user, X, m⟩ t = g.rules ⟨user, Y, m⟩ t := by
  have hframeworks : Authority.frameworks ⟨user, X, m⟩ = Authority.frameworks ⟨user, Y, m⟩ := hkeys
  have hholds : ∀ token ∈ g.named,
      Authority.holds ⟨user, X, m⟩ token = Authority.holds ⟨user, Y, m⟩ token := by
    intro token htoken
    rw [Bool.eq_iff_iff, Authority.holds_iff, Authority.holds_iff]
    exact hnamed token htoken
  have hany (held : List String) (hsubset : ∀ token ∈ held, token ∈ g.named) :
      held.any (Authority.holds ⟨user, X, m⟩) = held.any (Authority.holds ⟨user, Y, m⟩) := by
    rw [Bool.eq_iff_iff, List.any_eq_true, List.any_eq_true]
    apply exists_congr
    intro token
    exact and_congr_right fun htoken => by rw [hholds token (hsubset token htoken)]
  cases g with
  | framework actions =>
      rw [rules, rules, Authority.frameworkRules, Authority.frameworkRules, hframeworks]
  | frameworkReader held =>
      rw [rules, rules, hframeworks, hany held fun _ htoken => htoken]
  | holder held actions =>
      rw [rules, rules, Authority.holderRule?, Authority.holderRule?,
        hany held fun _ htoken => htoken]
  | organisation actions =>
      have htoken := hholds Token.manageOwn (List.mem_singleton.mpr rfl)
      rw [rules, rules, Authority.organisationRule?, Authority.organisationRule?,
        Authority.amongRule?, Authority.amongRule?, htoken]
  | monitor =>
      have htoken := hholds Token.manageOwn (List.mem_singleton.mpr rfl)
      rw [rules, rules, Authority.monitoringRule?, Authority.monitoringRule?,
        Authority.amongRule?, Authority.amongRule?, htoken]
  | manager actions =>
      have htoken := hholds Token.projectsManage (List.mem_singleton.mpr rfl)
      rw [rules, rules, Authority.managingRule?, Authority.managingRule?,
        Authority.amongRule?, Authority.amongRule?, htoken]
  | author token actions =>
      have htoken := hholds token (List.mem_singleton.mpr rfl)
      rw [rules, rules, htoken]
      rfl
  | self actions => rfl

/-- No standard policy names a token outside the vocabulary. -/
theorem EntityType.fixed_of_named (t : EntityType) :
    ∀ g ∈ t.grants, ∀ token ∈ g.named, token ∈ Token.fixed := by
  cases t <;> decide

/-- Users who agree get the same rules from a standard policy. -/
theorem Policy.rules_standard_congr (user : Identifier) (X Y : TokenSet) (m : Membership)
    (t : EntityType) (h : Token.Agree X Y) :
    (Policy.standard t).rules ⟨user, X, m⟩ = (Policy.standard t).rules ⟨user, Y, m⟩ := by
  rw [rules_standard, rules_standard]
  apply List.flatMap_congr
  intro g hg
  have hnamed : ∀ token ∈ g.named, (token ∈ X ↔ token ∈ Y) := by
    intro token htoken
    exact h.fixed token (t.fixed_of_named g hg token htoken)
  exact g.rules_congr user X Y m t hnamed (Token.frameworkKeys_eq_of_agree X Y h)

open Token in
/-- What tokens mean to the standard policy of a type. Users who agree on the six tokens and on the
frameworks that are granted get the same rules. A token that is neither one of the six nor the token
of a framework changes nothing: so does the bare beginning of framework tokens, a text that has it
further in, and any other spelling of one of the six. The frameworks granted are exactly those whose
tokens are held, and no two tokens grant the same. -/
structure EntityType.InertApart (user : Identifier) (m : Membership) (t : EntityType) : Prop where
  agree : ∀ X Y : TokenSet, Agree X Y →
    (Policy.standard t).rules ⟨user, X, m⟩ = (Policy.standard t).rules ⟨user, Y, m⟩
  insert : ∀ (X : TokenSet) (token : String), Inert token →
    (Policy.standard t).rules ⟨user, X.insert token, m⟩ =
      (Policy.standard t).rules ⟨user, X, m⟩
  bare : Inert "framework-"
  respelled : ∀ fold, IgnoresCase fold → ∀ original ∈ fixed, ∀ token, token ≠ original →
    spelling fold token = spelling fold original → Inert token
  further_in : ∀ before after : String,
    (∀ rest, before ++ "framework-" ++ after ≠ "framework-" ++ rest) →
    Inert (before ++ "framework-" ++ after)
  granted : ∀ (X : TokenSet) (key : String),
    key ∈ frameworkKeys X ↔ key ≠ "" ∧ "framework-" ++ key ∈ X
  injective : ∀ token other key, frameworkKey? token = some key →
    frameworkKey? other = some key → token = other
  nested : ∀ key,
    frameworkKey? ("framework-" ++ ("framework-" ++ key)) = some ("framework-" ++ key)

/-- To every standard policy all tokens are inert, apart from the six and those of frameworks. -/
theorem rules_eq_of_agree (user : Identifier) (m : Membership) (t : EntityType) :
    t.InertApart user m where
  agree X Y h := Policy.rules_standard_congr user X Y m t h
  insert X token h :=
    Policy.rules_standard_congr user _ X m t (Token.agree_insert_of_inert X token h)
  bare := Token.inert_frameworkMark
  respelled fold hfold original horiginal token :=
    Token.inert_of_respelled fold hfold original token horiginal
  further_in := Token.inert_of_further_in
  granted := Token.mem_frameworkKeys
  injective := Token.eq_of_frameworkKey?_eq
  nested := Token.frameworkKey?_framework_framework

/-- A member of an organisation who administers `ppc` gains nothing from a token that spells
`projects-manage` with capitals and blanks, from one that has `framework-` further in, or from the
bare beginning of framework tokens. -/
theorem rules_eq_of_agree_respelled :
    let X : TokenSet := {"manage-own", "framework-ppc"}
    let rules (tokens : TokenSet) : List Rule :=
      (Policy.standard .project).rules ⟨7, tokens, ⟨{42}, {5}, ∅⟩⟩
    rules (X.insert " Projects-MANAGE ") = rules X ∧
      rules (X.insert "my-framework-ppc") = rules X ∧ rules (X.insert "framework-") = rules X := by
  intro X rules
  have hapart : EntityType.project.InertApart 7 ⟨{42}, {5}, ∅⟩ := rules_eq_of_agree _ _ _
  refine ⟨?_, ?_, ?_⟩
  · have hsmall : Token.letters.map Char.toLower = Token.letters.map id := by decide +kernel
    have hlower : Token.IgnoresCase Char.toLower := by
      intro c hc d hd h
      rw [List.map_inj_left] at hsmall
      rwa [hsmall c hc, hsmall d hd] at h
    have hspelling : Token.spelling Char.toLower " Projects-MANAGE " =
        Token.spelling Char.toLower "projects-manage" := by decide +kernel
    have hinert := hapart.respelled Char.toLower hlower "projects-manage" (by decide)
      " Projects-MANAGE " (by decide) hspelling
    exact hapart.insert X _ hinert
  · have hnot : ∀ rest, "my-" ++ "framework-" ++ "ppc" ≠ "framework-" ++ rest := by
      intro rest h
      have hlists := congrArg String.toList h
      simp only [String.toList_append] at hlists
      have hfirst : some 'm' = some 'f' := congrArg List.head? hlists
      exact absurd hfirst (by decide)
    exact hapart.insert X "my-framework-ppc" (hapart.further_in "my-" "ppc" hnot)
  · exact hapart.insert X "framework-" hapart.bare

end AccessControl
