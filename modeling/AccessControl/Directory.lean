import Std.Data.ExtTreeMap
import AccessControl.Membership
import AccessControl.Rows
import AccessControl.Token

/-!
# Directories

An in-memory directory of accounts: the tokens of each user, the organisation that the user owns,
a row for each organisation that the user asked to join, and a row for each project in which the
user has a role. Each change concerns one user and replaces what an earlier change of the same kind
said.
-/

set_option autoImplicit false

namespace AccessControl

/-- What is on record of one user. -/
structure Account where
  tokens : TokenSet
  owned : Option Identifier
  requests : Rows MembershipStatus
  roles : Rows ProjectRoles

namespace Account

def empty : Account := ⟨∅, none, .empty, .empty⟩

/-- The organisations that a user belongs to: the one owned, and those with an approved request. -/
def organisations (a : Account) : IdentifierSet :=
  let approved := a.requests.keysWhere fun status => status = .approved
  Std.ExtTreeSet.ofList (a.owned.toList ++ approved)

/-- The projects in which a user has some role that a query asks for. -/
def projects (a : Account) (query : ProjectRoles) : IdentifierSet :=
  Std.ExtTreeSet.ofList (a.roles.keysWhere query.admits)

end Account

/-- The accounts of all users. -/
structure Directory where
  accounts : Std.ExtTreeMap Identifier Account

/-- A change of what is on record of one user. -/
inductive AccountChange
  | grant (token : String)
  | revokeAll
  | own (organisation : Option Identifier)
  | request (organisation : Identifier) (status : MembershipStatus)
  | join (project : Identifier) (roles : ProjectRoles)
  | leave (project : Identifier)
  deriving DecidableEq

def Account.change (a : Account) : AccountChange → Account
  | .grant token => { a with tokens := (a.tokens.add token).2 }
  | .revokeAll => { a with tokens := ∅ }
  | .own organisation => { a with owned := organisation }
  | .request organisation status => { a with requests := a.requests.write organisation status }
  | .join project roles => { a with roles := a.roles.write project roles }
  | .leave project => { a with roles := a.roles.remove project }

namespace Directory

def empty : Directory := ⟨∅⟩

def account (d : Directory) (user : Identifier) : Account :=
  d.accounts[user]?.getD .empty

def change (d : Directory) (user : Identifier) (c : AccountChange) : Directory :=
  ⟨d.accounts.insert user ((d.account user).change c)⟩

/-- Nobody has anything in the empty directory. -/
@[simp] theorem account_empty (user : Identifier) : empty.account user = .empty := by
  simp [account, empty]

/-- A change for one user decides that user's account and leaves the others. -/
theorem account_change (d : Directory) (user other : Identifier) (c : AccountChange) :
    (d.change user c).account other =
      if user = other then (d.account user).change c else d.account other := by
  simp only [account, change, Std.ExtTreeMap.getElem?_insert, Std.compare_eq_iff_eq]
  split <;> rfl

end Directory

end AccessControl
