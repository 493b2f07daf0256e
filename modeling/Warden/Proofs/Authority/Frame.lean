import Warden.Proofs.Authority.Effect
import Warden.Proofs.Grants.Mutators

namespace Warden

theorem User.removeRole_eq_self {u : User} {rolename : String} (h : u.hasRole rolename = false) :
    (u.removeRole rolename).1 = u := by
  have hroles : u.roles.get? rolename = none := by simpa [hasRole, KeyMap.contains] using h
  rw [removeRole, KeyMap.erase_eq_self hroles]

theorem User.hasRole_removeRole (u : User) (rolename r : String) :
    (u.removeRole rolename).1.hasRole r = (!decide (r = rolename) && u.hasRole r) := by
  rw [hasRole, KeyMap.contains, removeRole, KeyMap.get?_erase]
  by_cases h : r = rolename
  · simp [h]
  · simp [h, hasRole, KeyMap.contains]

theorem User.removeRole_twice (u : User) (rolename : String) :
    ((u.removeRole rolename).1.removeRole rolename).1 = (u.removeRole rolename).1 := by
  apply removeRole_eq_self
  simp [hasRole_removeRole]

theorem User.hasRole_addRole (u : User) (rolename r : String) :
    (u.addRole rolename).1.hasRole r = (decide (r = rolename) || u.hasRole r) := by
  rw [hasRole, KeyMap.contains, addRole, NameSet.insert, KeyMap.get?_insert]
  by_cases h : r = rolename
  · simp [h]
  · simp [h, hasRole, KeyMap.contains]

namespace Registry

variable {s : Registry}

@[simp] theorem roles_keepUser (s : Registry) (change : User × Bool) :
    (s.keepUser change).roles = s.roles := by
  rw [keepUser]
  split <;> rfl

@[simp] theorem users_keepRole (s : Registry) (change : Role × Bool) :
    (s.keepRole change).users = s.users := by
  rw [keepRole]
  split <;> rfl

theorem getUser_keepUser_of_ne {change : User × Bool} {username : String}
    (h : username ≠ change.1.name) :
    (s.keepUser change).users.get? username = s.users.get? username := by
  rw [keepUser]
  split
  · rw [getUser_putUser, if_neg h]
  · rfl

theorem getRole_keepRole_of_ne {change : Role × Bool} {rolename : String}
    (h : rolename ≠ change.1.name) :
    (s.keepRole change).roles.get? rolename = s.roles.get? rolename := by
  rw [keepRole]
  split
  · rw [getRole_putRole, if_neg h]
  · rfl

/-- A change that is not worth keeping is none. -/
theorem getUser_keepUser {change : User × Bool} {u : User}
    (hu : s.users.get? change.1.name = some u) (hsame : change.2 = false → change.1 = u)
    (username : String) :
    (s.keepUser change).users.get? username =
      if username = change.1.name then some change.1 else s.users.get? username := by
  rw [keepUser]
  split
  · exact getUser_putUser s change.1 username
  · rename_i hchanged
    split
    · rename_i hname
      rw [hname, hu, hsame (Bool.eq_false_iff.2 hchanged)]
    · rfl

theorem Named.keepUser (hs : s.Named) (change : User × Bool) : (s.keepUser change).Named := by
  rw [Registry.keepUser]
  split
  · exact hs.putUser change.1
  · exact hs

theorem Named.keepRole (hs : s.Named) (change : Role × Bool) : (s.keepRole change).Named := by
  rw [Registry.keepRole]
  split
  · exact hs.putRole change.1
  · exact hs

@[simp] theorem roles_strip (rolename : String) (s : Registry) (usernames : List String) :
    (s.strip rolename usernames).roles = s.roles := by
  induction usernames generalizing s with
  | nil => rfl
  | cons username usernames ih =>
    rw [strip]
    cases s.users.get? username with
    | none => exact ih s
    | some u => exact (ih _).trans (roles_keepUser s _)

theorem Named.strip (hs : s.Named) (rolename : String) (usernames : List String) :
    (s.strip rolename usernames).Named := by
  induction usernames generalizing s with
  | nil => exact hs
  | cons username usernames ih =>
    rw [Registry.strip]
    cases s.users.get? username with
    | none => exact ih hs
    | some u => exact ih (hs.keepUser _)

theorem getUser_keepUser_removeRole (hs : s.Named) {username : String} {u : User}
    (hu : s.users.get? username = some u) (rolename name : String) :
    (s.keepUser (u.removeRole rolename)).users.get? name =
      if name = username then some (u.removeRole rolename).1 else s.users.get? name := by
  have hname : (u.removeRole rolename).1.name = username := show u.name = username from hs.user hu
  rw [getUser_keepUser (by rw [hname, hu]) User.removeRole_eq_self, hname]

/-- Every user that is come by loses the role, and nothing else. -/
theorem getUser_strip (hs : s.Named) (rolename : String) (usernames : List String)
    (name : String) :
    (s.strip rolename usernames).users.get? name =
      (s.users.get? name).map fun u =>
        if name ∈ usernames then (u.removeRole rolename).1 else u := by
  induction usernames generalizing s with
  | nil => simp [strip]
  | cons username usernames ih =>
    rw [strip]
    cases hu : s.users.get? username with
    | none =>
      refine (ih hs).trans ?_
      by_cases hname : name = username
      · rw [hname, hu]
        rfl
      · simp only [List.mem_cons, hname, false_or]
    | some u =>
      refine (ih (hs.keepUser _)).trans ?_
      rw [getUser_keepUser_removeRole hs hu]
      by_cases hname : name = username
      · rw [if_pos hname, hname, hu]
        -- The role may be taken more than once from a user that is listed more than once.
        simp only [Option.map_some, User.removeRole_twice, List.mem_cons, true_or, if_true, ite_self]
      · rw [if_neg hname]
        simp only [List.mem_cons, hname, false_or]

theorem Named.eraseRole (hs : s.Named) (rolename : String) :
    ({ s with roles := s.roles.erase rolename } : Registry).Named where
  user h := hs.user h
  role h := by
    rw [KeyMap.get?_erase] at h
    split at h
    · cases h
    · exact hs.role h

theorem Named.dropRole (hs : s.Named) (rolename : String) : (s.dropRole rolename).Named :=
  (hs.eraseRole rolename).strip rolename s.users.keys

theorem getUser_dropRole (hs : s.Named) (rolename username : String) :
    (s.dropRole rolename).users.get? username =
      (s.users.get? username).map fun u => (u.removeRole rolename).1 := by
  refine (getUser_strip (hs.eraseRole rolename) rolename s.users.keys username).trans ?_
  change (s.users.get? username).map _ = _
  cases hu : s.users.get? username with
  | none => rfl
  | some u =>
    have hmem : username ∈ s.users.keys := by rw [KeyMap.mem_keys_iff, hu]; rfl
    simp only [Option.map_some, if_pos hmem]

theorem getRole_dropRole (s : Registry) (rolename r : String) :
    (s.dropRole rolename).roles.get? r = if r = rolename then none else s.roles.get? r := by
  rw [dropRole, roles_strip, KeyMap.get?_erase]

theorem Named.dropUser (hs : s.Named) (username : String) : (s.dropUser username).Named where
  user h := by
    rw [Registry.dropUser, KeyMap.get?_erase] at h
    split at h
    · cases h
    · exact hs.user h
  role h := hs.role h

theorem getUser_dropUser (s : Registry) (username name : String) :
    (s.dropUser username).users.get? name = if name = username then none else s.users.get? name :=
  KeyMap.get?_erase s.users username name

structure Sound (s : Registry) : Prop where
  user : ∀ {username u}, s.users.get? username = some u → u.grants.Sound
  role : ∀ {rolename r}, s.roles.get? rolename = some r → r.grants.Sound

theorem Sound.putUser (hs : s.Sound) {u : User} (hu : u.grants.Sound) : (s.putUser u).Sound where
  user h := by
    rw [getUser_putUser] at h
    split at h
    · cases h
      exact hu
    · exact hs.user h
  role h := hs.role h

theorem Sound.putRole (hs : s.Sound) {r : Role} (hr : r.grants.Sound) : (s.putRole r).Sound where
  user h := hs.user h
  role h := by
    rw [getRole_putRole] at h
    split at h
    · cases h
      exact hr
    · exact hs.role h

theorem Sound.keepUser (hs : s.Sound) {change : User × Bool} (hu : change.1.grants.Sound) :
    (s.keepUser change).Sound := by
  rw [Registry.keepUser]
  split
  · exact hs.putUser hu
  · exact hs

theorem Sound.keepRole (hs : s.Sound) {change : Role × Bool} (hr : change.1.grants.Sound) :
    (s.keepRole change).Sound := by
  rw [Registry.keepRole]
  split
  · exact hs.putRole hr
  · exact hs

theorem Sound.dropUser (hs : s.Sound) (username : String) : (s.dropUser username).Sound where
  user h := by
    rw [getUser_dropUser] at h
    split at h
    · cases h
    · exact hs.user h
  role h := hs.role h

theorem Sound.dropRole (hs : s.Sound) (hn : s.Named) (rolename : String) :
    (s.dropRole rolename).Sound where
  user h := by
    rw [getUser_dropRole hn] at h
    obtain ⟨u, hu, rfl⟩ := Option.map_eq_some_iff.1 h
    have hsound := hs.user hu
    exact hsound
  role h := by
    rw [getRole_dropRole] at h
    split at h
    · cases h
    · exact hs.role h

theorem sound_empty : empty.Sound where
  user h := by simp [empty] at h
  role h := by simp [empty] at h

end Registry

namespace Authority

variable {config : Config} {s s' : Registry} {o : Operation}

theorem Effect.named (h : Effect config s o s') (hs : s.Named) : s'.Named := by
  cases h with
  | createUser => exact hs.putUser _
  | dropUser => exact hs.dropUser _
  | updatePassword => exact hs.putUser _
  | createRole => exact hs.putRole _
  | dropRole => exact hs.dropRole _
  | grantRoleToUser => exact hs.keepUser _
  | revokeRoleFromUser => exact hs.keepUser _
  | grantUser => exact hs.keepUser _
  | revokeUser => exact hs.keepUser _
  | revokeUserGrantOption => exact hs.keepUser _
  | grantRole => exact hs.keepRole _
  | revokeRole => exact hs.keepRole _
  | revokeRoleGrantOption => exact hs.keepRole _

theorem Effect.sound (h : Effect config s o s') (hn : s.Named) (hs : s.Sound) : s'.Sound := by
  cases h with
  | createUser => exact hs.putUser Grants.sound_empty
  | dropUser => exact hs.dropUser _
  | updatePassword _ hu =>
    have hsound := hs.user hu
    exact hs.putUser hsound
  | createRole => exact hs.putRole Grants.sound_empty
  | dropRole => exact hs.dropRole hn _
  | grantRoleToUser _ hu =>
    have hsound := hs.user hu
    exact hs.keepUser hsound
  | revokeRoleFromUser hu =>
    have hsound := hs.user hu
    exact hs.keepUser hsound
  | grantUser hu hgrants => exact hs.keepUser (Grants.sound_of_grant (hs.user hu) hgrants)
  | revokeUser hu hgrants => exact hs.keepUser (Grants.sound_of_revoke (hs.user hu) hgrants)
  | revokeUserGrantOption hu hgrants =>
    exact hs.keepUser (Grants.sound_of_revokeOption (hs.user hu) hgrants)
  | grantRole hr hgrants => exact hs.keepRole (Grants.sound_of_grant (hs.role hr) hgrants)
  | revokeRole hr hgrants => exact hs.keepRole (Grants.sound_of_revoke (hs.role hr) hgrants)
  | revokeRoleGrantOption hr hgrants =>
    exact hs.keepRole (Grants.sound_of_revokeOption (hs.role hr) hgrants)

/-- A user that the operation is not about stays, less a role that is removed for everyone. -/
theorem Effect.user_frame (h : Effect config s o s') (hs : s.Named) {username : String}
    (hname : username ≠ o.affected.1) :
    s'.users.get? username = s.users.get? username ∨
      ∃ rolename, o = .dropRole rolename ∧
        s'.users.get? username = (s.users.get? username).map fun u => (u.removeRole rolename).1 := by
  cases h with
  | dropRole => exact .inr ⟨_, rfl, Registry.getUser_dropRole hs _ username⟩
  | createUser =>
    left
    rw [Registry.getUser_putUser]
    exact if_neg hname
  | dropUser =>
    left
    rw [Registry.getUser_dropUser]
    exact if_neg hname
  | updatePassword _ hu =>
    left
    rw [Registry.getUser_putUser]
    exact if_neg (hs.user hu ▸ hname)
  | createRole => exact .inl rfl
  | grantRoleToUser _ hu => exact .inl (Registry.getUser_keepUser_of_ne (hs.user hu ▸ hname))
  | revokeRoleFromUser hu => exact .inl (Registry.getUser_keepUser_of_ne (hs.user hu ▸ hname))
  | grantUser hu => exact .inl (Registry.getUser_keepUser_of_ne (hs.user hu ▸ hname))
  | revokeUser hu => exact .inl (Registry.getUser_keepUser_of_ne (hs.user hu ▸ hname))
  | revokeUserGrantOption hu => exact .inl (Registry.getUser_keepUser_of_ne (hs.user hu ▸ hname))
  | grantRole => exact .inl (by rw [Registry.users_keepRole])
  | revokeRole => exact .inl (by rw [Registry.users_keepRole])
  | revokeRoleGrantOption => exact .inl (by rw [Registry.users_keepRole])

theorem Effect.role_frame (h : Effect config s o s') (hs : s.Named) {rolename : String}
    (hname : rolename ≠ o.affected.2) : s'.roles.get? rolename = s.roles.get? rolename := by
  cases h with
  | createUser => rfl
  | dropUser => rfl
  | updatePassword => rfl
  | createRole =>
    rw [Registry.getRole_putRole]
    exact if_neg hname
  | dropRole =>
    rw [Registry.getRole_dropRole]
    exact if_neg hname
  | grantRoleToUser => rw [Registry.roles_keepUser]
  | revokeRoleFromUser => rw [Registry.roles_keepUser]
  | grantUser => rw [Registry.roles_keepUser]
  | revokeUser => rw [Registry.roles_keepUser]
  | revokeUserGrantOption => rw [Registry.roles_keepUser]
  | grantRole hr => exact Registry.getRole_keepRole_of_ne (hs.role hr ▸ hname)
  | revokeRole hr => exact Registry.getRole_keepRole_of_ne (hs.role hr ▸ hname)
  | revokeRoleGrantOption hr => exact Registry.getRole_keepRole_of_ne (hs.role hr ▸ hname)

/-- No role comes to have the empty name. -/
theorem Effect.unnamed (h : Effect config s o s') (hlength : 0 < config.minNameLength)
    (hn : s.Named) (hs : s.roles.get? "" = none) : s'.roles.get? "" = none := by
  have hkeep {rolename : String} {grants : Grants} {changed : Bool} {r : Role}
      (hr : s.roles.get? rolename = some r) :
      (s.keepRole ({ r with grants }, changed)).roles.get? "" = none := by
    -- A change of a role's grants needs the role to be there.
    have hname : rolename ≠ "" := by
      rintro rfl
      rw [hs] at hr
      cases hr
    rw [Registry.getRole_keepRole_of_ne (hn.role hr ▸ hname.symm), hs]
  cases h with
  | createUser => exact hs
  | dropUser => exact hs
  | updatePassword => exact hs
  | @createRole rolename hname =>
    rw [Registry.getRole_putRole, if_neg, hs]
    rintro rfl
    simp [nameFlaw?, inMemory, hlength] at hname
  | dropRole =>
    rw [Registry.getRole_dropRole, hs, ite_self]
  | grantRoleToUser => rw [Registry.roles_keepUser, hs]
  | revokeRoleFromUser => rw [Registry.roles_keepUser, hs]
  | grantUser => rw [Registry.roles_keepUser, hs]
  | revokeUser => rw [Registry.roles_keepUser, hs]
  | revokeUserGrantOption => rw [Registry.roles_keepUser, hs]
  | grantRole hr => exact hkeep hr
  | revokeRole hr => exact hkeep hr
  | revokeRoleGrantOption hr => exact hkeep hr

end Authority

end Warden
