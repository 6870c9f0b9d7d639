import Mathlib.Data.List.Basic
import Mathlib.Data.List.Induction
import AccessControl.Source

/-!
# What a directory remembers of its history

A directory is the outcome of a history of changes, and of these the last one of each kind counts. A
change stands as long as no later change for the same user undoes it. Rows are changed in place, so
this rests on an invariant: no account ever has two rows about one organisation or one project. Main
statement: `after_lastWriteWins`, what a directory answers about a user is what stands in its
history, and changes for other users are as good as never made.
-/

set_option autoImplicit false

namespace AccessControl

/-- Changes of a directory in their order, each with the user that it is for. -/
abbrev History := List (Identifier × AccountChange)

/-- The directory after a history, starting from one that knows no user. -/
def Directory.after (history : History) : Directory :=
  history.foldl (fun d step => d.change step.1 step.2) .empty

/-- A change for a user was made, and no later change for the user undoes it. -/
def History.Stands (history : History) (user : Identifier) (change : AccountChange)
    (undoes : AccountChange → Prop) : Prop :=
  ∃ earlier later : History, history = earlier ++ (user, change) :: later ∧
    ∀ c, (user, c) ∈ later → ¬ undoes c

namespace Directory

/-- Before any change every account is empty. -/
@[simp] theorem account_after_nil (user : Identifier) : (after []).account user = .empty :=
  account_empty user

/-- The last change is one to the account of its user and to no other. -/
theorem account_after_snoc (history : History) (user other : Identifier) (c : AccountChange) :
    (after (history ++ [(user, c)])).account other =
      if user = other then ((after history).account user).change c
      else (after history).account other := by
  unfold after
  rw [List.foldl_append]
  exact account_change _ user other c

/-- What the empty account has and every change keeps, every account has at any time. -/
theorem account_after_of_change (P : Account → Prop) (hempty : P .empty)
    (hchange : ∀ a c, P a → P (a.change c)) (history : History) (user : Identifier) :
    P ((after history).account user) := by
  induction history using List.reverseRecOn with
  | nil => simpa using hempty
  | append_singleton history step ih =>
      obtain ⟨other, c⟩ := step
      rw [account_after_snoc]
      split
      next huser =>
        rw [huser]
        exact hchange _ c ih
      next => exact ih

end Directory

/-- The last change of a history either is the one in question or leaves its standing alone. -/
theorem History.stands_snoc_iff (history : History) (user other : Identifier)
    (change c : AccountChange) (undoes : AccountChange → Prop) :
    Stands (history ++ [(other, c)]) user change undoes ↔
      (other = user ∧ c = change) ∨
        (¬ (other = user ∧ undoes c) ∧ Stands history user change undoes) := by
  unfold Stands
  constructor
  · -- Either nothing follows the change, and it is the last one, or the last one follows it.
    rintro ⟨earlier, later, hsplit, hkept⟩
    rcases List.eq_nil_or_concat' later with rfl | ⟨middle, last, rfl⟩
    · obtain ⟨-, hlast⟩ := List.append_inj' hsplit rfl
      simp only [List.cons.injEq, Prod.mk.injEq, and_true] at hlast
      exact Or.inl hlast
    · rw [← List.cons_append, ← List.append_assoc] at hsplit
      obtain ⟨hhistory, hlast⟩ := List.append_inj' hsplit rfl
      rw [List.cons.injEq] at hlast
      obtain ⟨rfl, -⟩ := hlast
      refine Or.inr ⟨?_, earlier, middle, hhistory, ?_⟩
      · rintro ⟨rfl, hundoes⟩
        exact hkept c (by simp) hundoes
      · intro d hd
        exact hkept d (List.mem_append_left _ hd)
  · rintro (⟨rfl, rfl⟩ | ⟨hlast, earlier, later, rfl, hkept⟩)
    · exact ⟨history, [], rfl, by simp⟩
    · refine ⟨earlier, later ++ [(other, c)], by simp, ?_⟩
      intro d hd hundoes
      rw [List.mem_append, List.mem_singleton] at hd
      rcases hd with hlater | heq
      · exact hkept d hlater hundoes
      · rw [Prod.mk.injEq] at heq
        obtain ⟨rfl, rfl⟩ := heq
        exact hlast ⟨rfl, hundoes⟩

/-- A fact about an account that one change brings about and others undo holds exactly as long as
that change stands. -/
theorem Directory.account_after_iff_stands (P : Account → Prop) (change : AccountChange)
    (undoes : AccountChange → Prop) (hempty : ¬ P .empty)
    (hchange : ∀ a c, P (a.change c) ↔ c = change ∨ (¬ undoes c ∧ P a))
    (history : History) (user : Identifier) :
    P ((after history).account user) ↔ history.Stands user change undoes := by
  induction history using List.reverseRecOn with
  | nil =>
      rw [account_after_nil]
      constructor
      · intro h
        exact absurd h hempty
      · rintro ⟨earlier, later, hsplit, -⟩
        simp at hsplit
  | append_singleton history step ih =>
      obtain ⟨other, c⟩ := step
      rw [account_after_snoc, History.stands_snoc_iff, ← ih]
      by_cases huser : other = user
      · rw [if_pos huser, huser, hchange]
        simp only [true_and]
      · simp only [huser, if_false, false_and, not_false_eq_true, true_and, false_or]

/-! ## One change of an account -/

namespace Account

/-- No organisation and no project has two rows. -/
def Tidy (a : Account) : Prop :=
  a.requests.Unique ∧ a.roles.Unique

/-- A change leaves no two rows with one key. -/
theorem tidy_change (a : Account) (c : AccountChange) (h : a.Tidy) : (a.change c).Tidy := by
  obtain ⟨hrequests, hroles⟩ := h
  cases c with
  | grant token => exact ⟨hrequests, hroles⟩
  | revokeAll => exact ⟨hrequests, hroles⟩
  | own organisation => exact ⟨hrequests, hroles⟩
  | request organisation status => exact ⟨a.requests.unique_write _ _ hrequests, hroles⟩
  | join project roles => exact ⟨hrequests, a.roles.unique_write _ _ hroles⟩
  | leave project => exact ⟨hrequests, a.roles.unique_remove _ hroles⟩

/-- A token is held if it was just granted, or was held before and not all were revoked. -/
theorem mem_tokens_change_iff (token : String) (a : Account) (c : AccountChange) :
    token ∈ (a.change c).tokens ↔ c = .grant token ∨ (¬ c = .revokeAll ∧ token ∈ a.tokens) := by
  cases c with
  | grant other => simp [change]
  | revokeAll => simp [change]
  | _ => simp [change]

/-- A user owns an organisation if that was just said, or was so before and nothing else was said.
-/
theorem owned_change_iff (organisation : Identifier) (a : Account) (c : AccountChange) :
    (a.change c).owned = some organisation ↔
      c = .own (some organisation) ∨
        (¬ (∃ other, c = .own other) ∧ a.owned = some organisation) := by
  cases c with
  | own other => simp [change]
  | _ => simp [change]

/-- A request has a status if it was just given, or had it before and was given no other. -/
theorem requests_change_iff (organisation : Identifier) (status : MembershipStatus) (a : Account)
    (c : AccountChange) :
    (a.change c).requests.value? organisation = some status ↔
      c = .request organisation status ∨
        (¬ (∃ other, c = .request organisation other) ∧
          a.requests.value? organisation = some status) := by
  cases c with
  | request other standing =>
      simp only [change, Rows.value?_write]
      split
      next h => simp [h]
      next h => simp [h]
  | _ => simp [change]

/-- A user has roles in a project if they were just given, or were held before and the user neither
left nor was given others. -/
theorem roles_change_iff (project : Identifier) (held : ProjectRoles) (a : Account)
    (c : AccountChange) :
    (a.change c).roles.value? project = some held ↔
      c = .join project held ∨
        (¬ (c = .leave project ∨ ∃ other, c = .join project other) ∧
          a.roles.value? project = some held) := by
  cases c with
  | join other roles =>
      simp only [change, Rows.value?_write]
      split
      next h => simp [h]
      next h => simp [h]
  | leave other =>
      simp only [change, Rows.value?_remove]
      split
      next h => simp [h]
      next h => simp [h]
  | _ => simp [change]

/-! ## What a tidy account answers -/

/-- The organisations of a user are the one that is owned and those that have approved a request. -/
theorem mem_organisations_iff (a : Account) (h : a.Tidy) (organisation : Identifier) :
    organisation ∈ a.organisations ↔
      a.owned = some organisation ∨ a.requests.value? organisation = some .approved := by
  unfold organisations
  simp only [mem_ofList_iff, List.mem_append, Option.mem_toList,
    Rows.mem_keysWhere_iff _ _ _ h.1]
  simp

/-- The projects of a user are those with one of the roles that are asked for. -/
theorem mem_projects_iff (a : Account) (h : a.Tidy) (query : ProjectRoles) (project : Identifier) :
    project ∈ a.projects query ↔
      ∃ held, a.roles.value? project = some held ∧
        ((query.monitoring = true ∧ held.monitoring = true) ∨
          (query.managing = true ∧ held.managing = true)) := by
  unfold projects
  simp only [mem_ofList_iff, Rows.mem_keysWhere_iff _ _ _ h.2, ProjectRoles.admits,
    Bool.or_eq_true, Bool.and_eq_true]

end Account

namespace Directory

/-- After any history no two rows of an account have one key. -/
theorem tidy_account_after (history : History) (user : Identifier) :
    ((after history).account user).Tidy :=
  account_after_of_change Account.Tidy ⟨Rows.unique_empty, Rows.unique_empty⟩
    Account.tidy_change history user

/-- A token is held exactly if it was granted and not all were revoked since. -/
theorem mem_tokens_after_iff (history : History) (user : Identifier) (token : String) :
    token ∈ ((after history).account user).tokens ↔
      history.Stands user (.grant token) fun c => c = .revokeAll :=
  account_after_iff_stands (fun a => token ∈ a.tokens) _ _ Std.ExtTreeSet.not_mem_empty
    (Account.mem_tokens_change_iff token) history user

/-- A user belongs to the organisation that was last said to be owned and to those whose last word
on a request was to approve it. -/
theorem mem_organisations_after_iff (history : History) (user organisation : Identifier) :
    organisation ∈ ((after history).account user).organisations ↔
      (history.Stands user (.own (some organisation)) fun c => ∃ other, c = .own other) ∨
      history.Stands user (.request organisation .approved)
        fun c => ∃ status, c = .request organisation status := by
  have howned := account_after_iff_stands (fun a => a.owned = some organisation) _ _
    (by simp [Account.empty]) (Account.owned_change_iff organisation) history user
  have hrequest := account_after_iff_stands
    (fun a => a.requests.value? organisation = some .approved) _ _
    (by simp [Account.empty, Rows.value?_empty])
    (Account.requests_change_iff organisation .approved) history user
  rw [Account.mem_organisations_iff _ (tidy_account_after history user), howned, hrequest]

/-- A project is listed exactly if the roles last given in it are among those asked for, and the
user did not leave since. -/
theorem mem_projects_after_iff (history : History) (user project : Identifier)
    (query : ProjectRoles) :
    project ∈ ((after history).account user).projects query ↔
      ∃ held, (history.Stands user (.join project held)
          fun c => c = .leave project ∨ ∃ other, c = .join project other) ∧
        ((query.monitoring = true ∧ held.monitoring = true) ∨
          (query.managing = true ∧ held.managing = true)) := by
  rw [Account.mem_projects_iff _ (tidy_account_after history user)]
  have hheld (held : ProjectRoles) := account_after_iff_stands
    (fun a => a.roles.value? project = some held) _ _
    (by simp [Account.empty, Rows.value?_empty]) (Account.roles_change_iff project held)
    history user
  simp only [hheld]

/-- What a directory knows of a user does not depend on the changes for other users. -/
theorem account_after_filter (history : History) (user : Identifier) :
    (after history).account user =
      (after (history.filter fun step => step.1 = user)).account user := by
  induction history using List.reverseRecOn with
  | nil => rfl
  | append_singleton history step ih =>
      obtain ⟨other, c⟩ := step
      rw [List.filter_append, account_after_snoc]
      by_cases huser : other = user
      · have hkept : [(other, c)].filter (fun step => step.1 = user) = [(other, c)] := by
          simp [huser]
        rw [hkept, account_after_snoc, if_pos huser, if_pos huser, huser, ih]
      · have hdropped : [(other, c)].filter (fun step => step.1 = user) = [] := by
          simp [huser]
        rw [hdropped, List.append_nil, if_neg huser, ih]

/-- What a directory answers about a user after a history, and what a check makes of it. -/
structure LastWriteWins (history : History) (user : Identifier) : Prop where
  tokens : ∀ token, token ∈ ((after history).account user).tokens ↔
    history.Stands user (.grant token) fun c => c = .revokeAll
  organisations : ∀ organisation, organisation ∈ ((after history).account user).organisations ↔
    (history.Stands user (.own (some organisation)) fun c => ∃ other, c = .own other) ∨
    history.Stands user (.request organisation .approved)
      fun c => ∃ status, c = .request organisation status
  projects : ∀ query project, project ∈ ((after history).account user).projects query ↔
    ∃ held, (history.Stands user (.join project held)
        fun c => c = .leave project ∨ ∃ other, c = .join project other) ∧
      ((query.monitoring = true ∧ held.monitoring = true) ∨
        (query.managing = true ∧ held.managing = true))
  /-- What happened to others has no part in it. -/
  others : (after history).account user =
    (after (history.filter fun step => step.1 = user)).account user
  /-- A check reads the projects of a manager and those of a monitor, each by this role alone. -/
  authority : (after history).source.authority user =
    .ok {
      user := user
      tokens := ((after history).account user).tokens
      membership := {
        organisations := ((after history).account user).organisations
        managing := ((after history).account user).projects ⟨false, true⟩
        monitoring := ((after history).account user).projects ⟨true, false⟩ } }

/-- The last write wins: a directory answers about a user what stands in its history, whatever
happened to other users. -/
theorem after_lastWriteWins (history : History) (user : Identifier) :
    LastWriteWins history user := by
  constructor
  case tokens =>
    intro token
    exact mem_tokens_after_iff history user token
  case organisations =>
    intro organisation
    exact mem_organisations_after_iff history user organisation
  case projects =>
    intro query project
    exact mem_projects_after_iff history user project query
  case others => exact account_after_filter history user
  case authority => rfl

end Directory

end AccessControl
