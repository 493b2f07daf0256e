import Warden.Proofs.Authority.Memory

namespace Warden

namespace Registry

def keepUser (s : Registry) (change : User × Bool) : Registry :=
  if change.2 then s.putUser change.1 else s

def keepRole (s : Registry) (change : Role × Bool) : Registry :=
  if change.2 then s.putRole change.1 else s

def strip (rolename : String) (s : Registry) : List String → Registry
  | [] => s
  | username :: usernames =>
    match s.users.get? username with
    | none => s.strip rolename usernames
    | some u => (s.keepUser (u.removeRole rolename)).strip rolename usernames

def dropRole (s : Registry) (rolename : String) : Registry :=
  ({ s with roles := s.roles.erase rolename } : Registry).strip rolename s.users.keys

def dropUser (s : Registry) (username : String) : Registry :=
  { s with users := s.users.erase username }

end Registry

namespace Authority

open Warden.Action Registry

/-- The ways in which an operation can succeed, with the registry it leaves. -/
inductive Effect (config : Config) (s : Registry) : Operation → Registry → Prop
  | createUser {username password : String}
      (hname : (inMemory config).nameFlaw? username = none)
      (hpassword : (inMemory config).passwordFlaw? password = none)
      (hnew : s.users.get? username = none) :
      Effect config s (.createUser username password)
        (s.putUser (.new username (Password.stored username password)))
  | dropUser {username : String} {u : User} (hadmin : config.adminName ≠ username)
      (hu : s.users.get? username = some u) :
      Effect config s (.dropUser username) (s.dropUser username)
  | updatePassword {username password : String} {u : User}
      (hpassword : (inMemory config).passwordFlaw? password = none)
      (hu : s.users.get? username = some u) :
      Effect config s (.updatePassword username password)
        (s.putUser { u with passwordHash := some (Password.stored username password) })
  | createRole {rolename : String} (hname : (inMemory config).nameFlaw? rolename = none)
      (hnew : s.roles.get? rolename = none) :
      Effect config s (.createRole rolename) (s.putRole (.new rolename))
  | dropRole {rolename : String} {r : Role} (hr : s.roles.get? rolename = some r) :
      Effect config s (.dropRole rolename) (s.dropRole rolename)
  | grantRoleToUser {rolename username : String} {r : Role} {u : User}
      (hr : s.roles.get? rolename = some r) (hu : s.users.get? username = some u) :
      Effect config s (.grantRoleToUser rolename username) (s.keepUser (u.addRole rolename))
  | revokeRoleFromUser {rolename username : String} {u : User}
      (hu : s.users.get? username = some u) :
      Effect config s (.revokeRoleFromUser rolename username) (s.keepUser (u.removeRole rolename))
  | grantUser {username : String} {p : Privilege} {target : Target} {option : Bool} {u : User}
      {grants : Grants} {changed : Bool} (hu : s.users.get? username = some u)
      (hgrants : (Grants.grant p target option).run u.grants = (.ok changed, grants)) :
      Effect config s (.grantUser username p target option)
        (s.keepUser ({ u with grants }, changed))
  | revokeUser {username : String} {p : Privilege} {target : Target} {u : User}
      {grants : Grants} {changed : Bool} (hu : s.users.get? username = some u)
      (hgrants : (Grants.revoke p target).run u.grants = (.ok changed, grants)) :
      Effect config s (.revokeUser username p target)
        (s.keepUser ({ u with grants }, changed))
  | revokeUserGrantOption {username : String} {p : Privilege} {target : Target} {u : User}
      {grants : Grants} {changed : Bool} (hu : s.users.get? username = some u)
      (hgrants : (Grants.revokeOption p target).run u.grants = (.ok changed, grants)) :
      Effect config s (.revokeUserGrantOption username p target)
        (s.keepUser ({ u with grants }, changed))
  | grantRole {rolename : String} {p : Privilege} {target : Target} {option : Bool} {r : Role}
      {grants : Grants} {changed : Bool} (hr : s.roles.get? rolename = some r)
      (hgrants : (Grants.grant p target option).run r.grants = (.ok changed, grants)) :
      Effect config s (.grantRole rolename p target option)
        (s.keepRole ({ r with grants }, changed))
  | revokeRole {rolename : String} {p : Privilege} {target : Target} {r : Role}
      {grants : Grants} {changed : Bool} (hr : s.roles.get? rolename = some r)
      (hgrants : (Grants.revoke p target).run r.grants = (.ok changed, grants)) :
      Effect config s (.revokeRole rolename p target)
        (s.keepRole ({ r with grants }, changed))
  | revokeRoleGrantOption {rolename : String} {p : Privilege} {target : Target} {r : Role}
      {grants : Grants} {changed : Bool} (hr : s.roles.get? rolename = some r)
      (hgrants : (Grants.revokeOption p target).run r.grants = (.ok changed, grants)) :
      Effect config s (.revokeRoleGrantOption rolename p target)
        (s.keepRole ({ r with grants }, changed))

variable {config : Config} {s : Registry}

theorem run_checkName (kind : NameKind) (name : String) :
    ((inMemory config).checkName kind name).run s =
      match (inMemory config).nameFlaw? name with
      | some reason => (.error (.illegalName kind name reason), s)
      | none => (.ok (), s) := by
  rw [checkName]
  cases (inMemory config).nameFlaw? name <;> rfl

theorem run_checkPassword (password : String) :
    ((inMemory config).checkPassword password).run s =
      match (inMemory config).passwordFlaw? password with
      | some reason => (.error (.illegalName .password "<hidden>" reason), s)
      | none => (.ok (), s) := by
  rw [checkPassword]
  cases (inMemory config).passwordFlaw? password <;> rfl

theorem run_updateUser (username : String) (mutate : Action User Bool) :
    ((inMemory config).updateUser username mutate).run s =
      match s.users.get? username with
      | none => (.error (.noSuchUser username), s)
      | some u =>
        match mutate.run u with
        | (.ok changed, u) => (.ok changed, s.keepUser (u, changed))
        | (.error fault, _) => (.error fault, s) := by
  rw [updateUser, run_bind_ok (run_user? username)]
  cases s.users.get? username with
  | none => rfl
  | some u =>
    dsimp only
    rcases mutate.run u with ⟨fault | changed, u'⟩
    · rfl
    · cases changed <;> rfl

theorem run_updateRole (rolename : String) (mutate : Action Role Bool) :
    ((inMemory config).updateRole rolename mutate).run s =
      match s.roles.get? rolename with
      | none => (.error (.noSuchRole rolename), s)
      | some r =>
        match mutate.run r with
        | (.ok changed, r) => (.ok changed, s.keepRole (r, changed))
        | (.error fault, _) => (.error fault, s) := by
  rw [updateRole, run_bind_ok (run_role? rolename)]
  cases s.roles.get? rolename with
  | none => rfl
  | some r =>
    dsimp only
    rcases mutate.run r with ⟨fault | changed, r'⟩
    · rfl
    · cases changed <;> rfl

theorem run_stripRole (rolename : String) (usernames : List String) :
    ((inMemory config).stripRole rolename usernames).run s =
      (.ok (), s.strip rolename usernames) := by
  induction usernames generalizing s with
  | nil => rfl
  | cons username usernames ih =>
    rw [stripRole, run_bind_ok (run_user? username), strip]
    cases s.users.get? username with
    | none => exact ih
    | some u =>
      dsimp only
      rw [keepUser]
      cases (u.removeRole rolename).2 with
      | false => exact ih
      | true => exact ih

theorem run_createUser (username password : String) :
    ((inMemory config).createUser username password).run s =
      match (inMemory config).nameFlaw? username, (inMemory config).passwordFlaw? password with
      | some reason, _ => (.error (.illegalName .user username reason), s)
      | none, some reason => (.error (.illegalName .password "<hidden>" reason), s)
      | none, none =>
        if s.users.contains username then (.ok false, s)
        else (.ok true, s.putUser (.new username (Password.stored username password))) := by
  rw [createUser, run_bind, run_checkName]
  cases (inMemory config).nameFlaw? username with
  | some reason => rfl
  | none =>
    dsimp only
    rw [run_bind, run_checkPassword]
    cases (inMemory config).passwordFlaw? password with
    | some reason => rfl
    | none => exact run_addUser _

theorem run_createOpenIdUser (username : String) :
    ((inMemory config).createOpenIdUser username).run s =
      match (inMemory config).nameFlaw? username with
      | some reason => (.error (.illegalName .user username reason), s)
      | none =>
        if s.users.contains username then (.ok false, s)
        else (.ok true, s.putUser (.openIdentity username)) := by
  rw [createOpenIdUser, run_bind, run_checkName]
  cases (inMemory config).nameFlaw? username with
  | some reason => rfl
  | none => exact run_addUser _

theorem run_dropUser (username : String) :
    ((inMemory config).dropUser username).run s =
      if config.adminName = username then
        (.error (.illegalName .user username "the administrator cannot be dropped"), s)
      else (.ok (s.users.contains username), s.dropUser username) := by
  rw [dropUser, isAdmin_inMemory]
  by_cases h : config.adminName = username <;> simp only [h, decide_true, decide_false] <;> rfl

theorem run_createRole (rolename : String) :
    ((inMemory config).createRole rolename).run s =
      match (inMemory config).nameFlaw? rolename with
      | some reason => (.error (.illegalName .role rolename reason), s)
      | none =>
        match s.roles.get? rolename with
        | some _ => (.ok false, s)
        | none => (.ok true, s.putRole (.new rolename)) := by
  rw [createRole, run_bind, run_checkName]
  cases (inMemory config).nameFlaw? rolename with
  | some reason => rfl
  | none =>
    dsimp only
    rw [run_bind_ok (run_role? rolename)]
    cases s.roles.get? rolename <;> rfl

theorem run_dropRole (rolename : String) :
    ((inMemory config).dropRole rolename).run s =
      if s.roles.contains rolename then (.ok true, s.dropRole rolename)
      else (.ok false, { s with roles := s.roles.erase rolename }) := by
  have hdelete : (Action.change ((inMemory config).backend.roles.delete rolename)).run s =
      (.ok (s.roles.contains rolename), { s with roles := s.roles.erase rolename }) := rfl
  rw [dropRole, run_bind_ok hdelete]
  cases s.roles.contains rolename with
  | false => rfl
  | true =>
    dsimp only
    rw [if_pos rfl, if_pos rfl, run_bind_ok run_listUsers, run_bind_ok (run_stripRole _ _)]
    rfl

theorem run_grantRole (rolename username : String) :
    ((inMemory config).grantRole rolename username).run s =
      match s.roles.get? rolename with
      | none => (.error (.noSuchRole rolename), s)
      | some _ => ((inMemory config).updateUser username (.update (·.addRole rolename))).run s := by
  rw [grantRole, run_bind_ok (run_role? rolename)]
  cases s.roles.get? rolename <;> rfl

theorem run_changeUser (username : String) (mutate : Action User Bool)
    (s : Registry) :
    (∃ fault, (discard ((inMemory config).updateUser username mutate)).run s = (.error fault, s)) ∨
      ∃ u u' changed, s.users.get? username = some u ∧ mutate.run u = (.ok changed, u') ∧
        (discard ((inMemory config).updateUser username mutate)).run s =
          (.ok (), s.keepUser (u', changed)) := by
  rw [run_discard, run_updateUser]
  cases s.users.get? username with
  | none => exact .inl ⟨_, rfl⟩
  | some u =>
    dsimp only
    rcases hrun : mutate.run u with ⟨fault | changed, u'⟩
    · exact .inl ⟨_, rfl⟩
    · exact .inr ⟨u, u', changed, rfl, hrun, rfl⟩

theorem run_changeRole (rolename : String) (mutate : Action Role Bool)
    (s : Registry) :
    (∃ fault, (discard ((inMemory config).updateRole rolename mutate)).run s = (.error fault, s)) ∨
      ∃ r r' changed, s.roles.get? rolename = some r ∧ mutate.run r = (.ok changed, r') ∧
        (discard ((inMemory config).updateRole rolename mutate)).run s =
          (.ok (), s.keepRole (r', changed)) := by
  rw [run_discard, run_updateRole]
  cases s.roles.get? rolename with
  | none => exact .inl ⟨_, rfl⟩
  | some r =>
    dsimp only
    rcases hrun : mutate.run r with ⟨fault | changed, r'⟩
    · exact .inl ⟨_, rfl⟩
    · exact .inr ⟨r, r', changed, rfl, hrun, rfl⟩

theorem run_changeUserGrants (username : String) (x : Action Grants Bool) (s : Registry) :
    (∃ fault, (discard ((inMemory config).updateUser username (onUserGrants x))).run s =
      (.error fault, s)) ∨
      ∃ u grants changed, s.users.get? username = some u ∧ x.run u.grants = (.ok changed, grants) ∧
        (discard ((inMemory config).updateUser username (onUserGrants x))).run s =
          (.ok (), s.keepUser ({ u with grants }, changed)) := by
  refine (run_changeUser username _ s).imp_right ?_
  rintro ⟨u, _, changed, hu, hchange, hrun⟩
  obtain ⟨hresult, rfl⟩ := Prod.mk.inj hchange
  exact ⟨u, (x.run u.grants).2, changed, hu, Prod.ext hresult rfl, hrun⟩

theorem run_changeRoleGrants (rolename : String) (x : Action Grants Bool) (s : Registry) :
    (∃ fault, (discard ((inMemory config).updateRole rolename (onRoleGrants x))).run s =
      (.error fault, s)) ∨
      ∃ r grants changed, s.roles.get? rolename = some r ∧ x.run r.grants = (.ok changed, grants) ∧
        (discard ((inMemory config).updateRole rolename (onRoleGrants x))).run s =
          (.ok (), s.keepRole ({ r with grants }, changed)) := by
  refine (run_changeRole rolename _ s).imp_right ?_
  rintro ⟨r, _, changed, hr, hchange, hrun⟩
  obtain ⟨hresult, rfl⟩ := Prod.mk.inj hchange
  exact ⟨r, (x.run r.grants).2, changed, hr, Prod.ext hresult rfl, hrun⟩

variable (config) in
/-- An operation fails and changes nothing, or succeeds with one of the effects. -/
theorem run_apply (o : Operation) (s : Registry) :
    (∃ fault, ((inMemory config).apply o).run s = (.error fault, s)) ∨
      ∃ s', ((inMemory config).apply o).run s = (.ok (), s') ∧ Effect config s o s' := by
  cases o with
  | createUser username password =>
    rw [apply, run_orFail, run_createUser]
    cases hname : (inMemory config).nameFlaw? username with
    | some reason => exact .inl ⟨_, rfl⟩
    | none =>
      cases hpassword : (inMemory config).passwordFlaw? password with
      | some reason => exact .inl ⟨_, rfl⟩
      | none =>
        cases hnew : s.users.get? username with
        | some u => exact .inl ⟨.userExists username, by simp [KeyMap.contains_of_get? hnew]⟩
        | none =>
          exact .inr ⟨_, by simp [KeyMap.contains_of_none hnew], .createUser hname hpassword hnew⟩
  | dropUser username =>
    rw [apply, run_orFail, run_dropUser]
    by_cases hadmin : config.adminName = username
    · rw [if_pos hadmin]
      exact .inl ⟨_, rfl⟩
    · rw [if_neg hadmin]
      cases hu : s.users.get? username with
      | none =>
        have hs : s.dropUser username = s := by rw [Registry.dropUser, KeyMap.erase_eq_self hu]
        exact .inl ⟨.noSuchUser username, by simp [KeyMap.contains_of_none hu, hs]⟩
      | some u => exact .inr ⟨_, by simp [KeyMap.contains_of_get? hu], .dropUser hadmin hu⟩
  | updatePassword username password =>
    rw [apply, updatePassword, run_bind, run_checkPassword]
    cases hpassword : (inMemory config).passwordFlaw? password with
    | some reason => exact .inl ⟨_, rfl⟩
    | none =>
      refine (run_changeUser username _ s).imp_right ?_
      rintro ⟨u, u', changed, hu, hchange, hrun⟩
      cases hchange
      exact ⟨_, hrun, .updatePassword hpassword hu⟩
  | createRole rolename =>
    rw [apply, run_orFail, run_createRole]
    cases hname : (inMemory config).nameFlaw? rolename with
    | some reason => exact .inl ⟨_, rfl⟩
    | none =>
      cases hnew : s.roles.get? rolename with
      | some r => exact .inl ⟨_, rfl⟩
      | none => exact .inr ⟨_, rfl, .createRole hname hnew⟩
  | dropRole rolename =>
    rw [apply, run_orFail, run_dropRole]
    cases hr : s.roles.get? rolename with
    | none =>
      exact .inl ⟨.noSuchRole rolename,
        by simp [KeyMap.contains_of_none hr, KeyMap.erase_eq_self hr]⟩
    | some r => exact .inr ⟨_, by simp [KeyMap.contains_of_get? hr], .dropRole hr⟩
  | grantRoleToUser rolename username =>
    rw [apply, run_discard, run_grantRole]
    cases hr : s.roles.get? rolename with
    | none => exact .inl ⟨_, rfl⟩
    | some r =>
      dsimp only
      rw [← run_discard]
      refine (run_changeUser username _ s).imp_right ?_
      rintro ⟨u, u', changed, hu, hchange, hrun⟩
      cases hchange
      exact ⟨_, hrun, .grantRoleToUser hr hu⟩
  | revokeRoleFromUser rolename username =>
    refine (run_changeUser username _ s).imp_right ?_
    rintro ⟨u, u', changed, hu, hchange, hrun⟩
    cases hchange
    exact ⟨_, hrun, .revokeRoleFromUser hu⟩
  | grantUser username p target option =>
    refine (run_changeUserGrants username _ s).imp_right ?_
    rintro ⟨u, grants, changed, hu, hgrants, hrun⟩
    exact ⟨_, hrun, .grantUser hu hgrants⟩
  | revokeUser username p target =>
    refine (run_changeUserGrants username _ s).imp_right ?_
    rintro ⟨u, grants, changed, hu, hgrants, hrun⟩
    exact ⟨_, hrun, .revokeUser hu hgrants⟩
  | revokeUserGrantOption username p target =>
    refine (run_changeUserGrants username _ s).imp_right ?_
    rintro ⟨u, grants, changed, hu, hgrants, hrun⟩
    exact ⟨_, hrun, .revokeUserGrantOption hu hgrants⟩
  | grantRole rolename p target option =>
    refine (run_changeRoleGrants rolename _ s).imp_right ?_
    rintro ⟨r, grants, changed, hr, hgrants, hrun⟩
    exact ⟨_, hrun, .grantRole hr hgrants⟩
  | revokeRole rolename p target =>
    refine (run_changeRoleGrants rolename _ s).imp_right ?_
    rintro ⟨r, grants, changed, hr, hgrants, hrun⟩
    exact ⟨_, hrun, .revokeRole hr hgrants⟩
  | revokeRoleGrantOption rolename p target =>
    refine (run_changeRoleGrants rolename _ s).imp_right ?_
    rintro ⟨r, grants, changed, hr, hgrants, hrun⟩
    exact ⟨_, hrun, .revokeRoleGrantOption hr hgrants⟩

variable (config) in
/-- An operation answers with its status, and never fails. -/
theorem run_operate (o : Operation) (s : Registry) :
    (∃ fault, ((inMemory config).operate o).run s = (.ok (Fault.status fault), s)) ∨
      ∃ s', ((inMemory config).operate o).run s = (.ok .success, s') ∧ Effect config s o s' := by
  rcases run_apply config o s with ⟨fault, hf⟩ | ⟨s', hok, heffect⟩
  · exact .inl ⟨fault, by rw [run_operate_eq, hf, outcomeStatus]⟩
  · exact .inr ⟨s', by rw [run_operate_eq, hok, outcomeStatus], heffect⟩

end Authority

end Warden
