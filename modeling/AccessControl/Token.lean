import AccessControl.Attribute

/-!
# Permission tokens

A user holds a flat set of tokens, which are plain texts. Six of them have a fixed meaning, and a
token that continues `framework-` grants the framework whose key is the rest of it. All other tokens
are inert.
-/

set_option autoImplicit false

namespace AccessControl

abbrev TokenSet := Std.ExtTreeSet String

namespace TokenSet

/-- Whether a token is new to a set, and the set with the token in it. -/
def add (held : TokenSet) (token : String) : Bool × TokenSet :=
  let found := held.containsThenInsert token
  (!found.1, found.2)

/-- A token is new exactly if it was not held. -/
theorem add_fst (held : TokenSet) (token : String) :
    (held.add token).1 = !held.contains token :=
  congrArg not Std.ExtTreeSet.containsThenInsert_fst

/-- New or not, the token is held from then on, and no other one comes or goes. -/
@[simp] theorem add_snd (held : TokenSet) (token : String) :
    (held.add token).2 = held.insert token :=
  Std.ExtTreeSet.containsThenInsert_snd

end TokenSet

namespace Token

/-- What every framework token begins with. -/
def frameworkMark : String := "framework-"

/-- Acting for the organisations that a user belongs to. -/
def manageOwn : String := "manage-own"

/-- Acting on the projects that a user manages. -/
def projectsManage : String := "projects-manage"

/-- Reading across all projects. -/
def projectsRead : String := "projects-read"

/-- Reading what the dashboard shows. -/
def viewDashboard : String := "view-dashboard"

/-- Administering users and organisations. -/
def usersManage : String := "users-manage"

/-- Curating media in bulk. -/
def mediaManage : String := "media-manage"

/-- Every token text with a fixed meaning, the beginning of framework tokens first. -/
def vocabulary : List String :=
  [frameworkMark, manageOwn, projectsManage, projectsRead, viewDashboard, usersManage, mediaManage]

/-- What follows a mark in a text that begins with it. -/
def rest? : (mark : List Char) → (cs : List Char) → Option (List Char)
  | [], cs => some cs
  | m :: ms, c :: cs => if m = c then rest? ms cs else none
  | _ :: _, [] => none

/-- The key of a framework token, which is what follows `framework-` and is never empty. -/
def frameworkKey? (token : String) : Option String :=
  ((rest? frameworkMark.toList token.toList).map String.ofList).filter (· ≠ "")

/-- A text has a rest behind a mark exactly if it is the mark with this rest behind it. -/
theorem rest?_eq_some_iff (mark cs rest : List Char) :
    rest? mark cs = some rest ↔ cs = mark ++ rest := by
  induction mark generalizing cs with
  | nil => simp [rest?]
  | cons m ms ih =>
    cases cs with
    | nil => simp [rest?]
    | cons c cs =>
      by_cases hmc : m = c
      · simp [rest?, hmc, ih]
      · simp [rest?, hmc, Ne.symm hmc]

/-- A token grants a framework key exactly when the key is not empty and the token is `framework-`
continued by the key. -/
theorem frameworkKey?_eq_some_iff (token key : String) :
    frameworkKey? token = some key ↔ key ≠ "" ∧ token = frameworkMark ++ key := by
  rw [frameworkKey?, Option.filter_eq_some_iff, Option.map_eq_some_iff]
  simp only [rest?_eq_some_iff, decide_eq_true_eq]
  constructor
  · rintro ⟨⟨rest, htoken, rfl⟩, hkey⟩
    refine ⟨hkey, String.toList_inj.mp ?_⟩
    rw [htoken, String.toList_append, String.toList_ofList]
  · rintro ⟨hkey, rfl⟩
    exact ⟨⟨key.toList, String.toList_append, String.ofList_toList⟩, hkey⟩

def frameworkKeys (tokens : TokenSet) : Std.ExtTreeSet String :=
  Std.ExtTreeSet.ofList (tokens.toList.filterMap frameworkKey?)

/-- A key is granted exactly when it is not empty and its framework token is held. -/
theorem mem_frameworkKeys (tokens : TokenSet) (key : String) :
    key ∈ frameworkKeys tokens ↔ key ≠ "" ∧ frameworkMark ++ key ∈ tokens := by
  simp only [frameworkKeys, mem_ofList_iff, List.mem_filterMap, Std.ExtTreeSet.mem_toList,
    frameworkKey?_eq_some_iff]
  constructor
  · rintro ⟨token, hheld, hkey, rfl⟩
    exact ⟨hkey, hheld⟩
  · rintro ⟨hkey, hheld⟩
    exact ⟨_, hheld, hkey, rfl⟩

end Token

end AccessControl
