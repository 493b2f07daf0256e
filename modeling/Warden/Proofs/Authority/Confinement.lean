import Warden.Proofs.Authority.Integrity

namespace Warden

namespace Operation

def user? (o : Operation) : Option String :=
  if o.affected.1 = "" then none else some o.affected.1

def role? (o : Operation) : Option String :=
  if o.affected.2 = "" then none else some o.affected.2

theorem eq_of_user? {o : Operation} {username : String} (h : o.user? = some username) :
    o.affected.1 = username := by
  unfold user? at h
  split at h
  · cases h
  · exact Option.some.inj h

theorem eq_empty_of_user? {o : Operation} {username : String} (h : o.user? ≠ some username)
    (hname : username = o.affected.1) : username = "" := by
  by_contra hne
  apply h
  rw [user?, ← hname]
  exact if_neg hne

theorem eq_empty_of_role? {o : Operation} {rolename : String} (h : o.role? ≠ some rolename)
    (hname : rolename = o.affected.2) : rolename = "" := by
  by_contra hne
  apply h
  rw [role?, ← hname]
  exact if_neg hne

def mayMake (o : Operation) (before after : Option User) : Prop :=
  match o with
  | createUser username _ => before = none ∧ ∃ hash, after = some (.new username hash)
  | dropUser _ => after = none
  | updatePassword .. =>
    ∃ u v, before = some u ∧ after = some v ∧ ∃ passwordHash, v = { u with passwordHash }
  | grantRoleToUser .. | revokeRoleFromUser .. =>
    ∃ u v, before = some u ∧ after = some v ∧ ∃ roles, v = { u with roles }
  | grantUser .. | revokeUser .. | revokeUserGrantOption .. =>
    ∃ u v, before = some u ∧ after = some v ∧ ∃ grants, v = { u with grants }
  | createRole _ | dropRole _ | grantRole .. | revokeRole .. | revokeRoleGrantOption .. => True

end Operation

namespace Registry

variable {s : Registry}

/-- A registry after an operation differs from the one before it only where the operation reaches. -/
structure Confined (s : Registry) (o : Operation) (s' : Registry) : Prop where
  user : ∀ {username}, o.user? ≠ some username → (∀ rolename, o ≠ .dropRole rolename) →
    s'.users.get? username = s.users.get? username
  role : ∀ {rolename}, o.role? ≠ some rolename → s'.roles.get? rolename = s.roles.get? rolename
  named : ∀ {username}, o.user? = some username →
    o.mayMake (s.users.get? username) (s'.users.get? username)
  dropped : ∀ {rolename}, o = .dropRole rolename → ∀ username, s'.users.get? username =
    (s.users.get? username).map fun u => { u with roles := u.roles.erase rolename }

/-- Whether or not a change of a user is kept, the stored user is as the change may make it. -/
theorem getUser_keepUser_related (hs : s.Named) {username : String} {u : User}
    (hu : s.users.get? username = some u) {change : User × Bool} (hname : change.1.name = u.name)
    {R : User → User → Prop} (hsame : R u u) (hchange : R u change.1) :
    ∃ u v, s.users.get? username = some u ∧
      (s.keepUser change).users.get? username = some v ∧ R u v := by
  rw [keepUser]
  split
  · have hself : username = change.1.name := (hname.trans (hs.user hu)).symm
    exact ⟨u, change.1, hu, (getUser_putUser ..).trans (if_pos hself), hchange⟩
  · exact ⟨u, u, hu, hu, hsame⟩

end Registry

namespace Authority

open Warden.Action Registry

variable {config : Config} {s s' : Registry} {o : Operation}

theorem Effect.mayMake (h : Effect config s o s') (hs : s.Named) :
    o.mayMake (s.users.get? o.affected.1) (s'.users.get? o.affected.1) := by
  cases h with
  | createUser _ _ hnew => exact ⟨hnew, _, (getUser_putUser ..).trans (if_pos rfl)⟩
  | dropUser => exact (getUser_dropUser ..).trans (if_pos rfl)
  | updatePassword _ hu =>
    have hself := (hs.user hu).symm
    exact ⟨_, _, hu, (getUser_putUser ..).trans (if_pos hself), _, rfl⟩
  | grantRoleToUser _ hu => exact getUser_keepUser_related hs hu rfl ⟨_, rfl⟩ ⟨_, rfl⟩
  | revokeRoleFromUser hu => exact getUser_keepUser_related hs hu rfl ⟨_, rfl⟩ ⟨_, rfl⟩
  | grantUser hu => exact getUser_keepUser_related hs hu rfl ⟨_, rfl⟩ ⟨_, rfl⟩
  | revokeUser hu => exact getUser_keepUser_related hs hu rfl ⟨_, rfl⟩ ⟨_, rfl⟩
  | revokeUserGrantOption hu => exact getUser_keepUser_related hs hu rfl ⟨_, rfl⟩ ⟨_, rfl⟩
  | createRole => trivial
  | dropRole => trivial
  | grantRole => trivial
  | revokeRole => trivial
  | revokeRoleGrantOption => trivial

theorem Effect.confined (h : Effect config s o s') (hs : s.Intact config)
    (hs' : s'.Intact config) : Confined s o s' where
  user {username} hname hkeep := by
    by_cases haffected : username = o.affected.1
    -- The name that stands for no user is no user's name, before or after.
    · rw [Operation.eq_empty_of_user? hname haffected, hs.nameless, hs'.nameless]
    · rcases h.user_frame hs.named haffected with hsame | ⟨rolename, hdrop, -⟩
      · exact hsame
      · exact absurd hdrop (hkeep rolename)
  role {rolename} hname := by
    by_cases haffected : rolename = o.affected.2
    · rw [Operation.eq_empty_of_role? hname haffected, hs.unnamed, hs'.unnamed]
    · exact h.role_frame hs.named haffected
  named hname := by
    rw [← Operation.eq_of_user? hname]
    exact h.mayMake hs.named
  dropped {rolename} hdrop username := by
    subst hdrop
    cases h with
    | dropRole => exact getUser_dropRole hs.named rolename username

/-- An operation on an authority in memory fails and changes nothing, or stays where it belongs. -/
theorem apply_confined {a : Authority Registry} {registry : Registry}
    (hopen : (openMemory config).run .empty = (.ok a, registry)) (acts : List Act)
    (o : Operation) :
    let s := a.after registry acts
    (∃ fault, (a.apply o).run s = (.error fault, s)) ∨
      ∃ s', (a.apply o).run s = (.ok (), s') ∧ Confined s o s' := by
  intro s
  have hflaw : config.flaw? = none := Config.flaw?_of_validate (validate_of_openMemory hopen)
  have hlength : 0 < config.minNameLength := Config.minNameLength_pos hflaw
  obtain ⟨ha, hs⟩ := intact_after hopen acts
  subst ha
  rcases run_apply config o s with hfail | ⟨s', hrun, heffect⟩
  · exact .inl hfail
  · exact .inr ⟨s', hrun, heffect.confined hs (heffect.intact hlength hs)⟩

/-- The removal of a role takes the role from a user who had it, and leaves the user's other role. -/
theorem apply_confined_dropRole :
    let acts : List Act := [.apply (.createUser "alice" "secret"), .apply (.createRole "reader"),
      .apply (.createRole "writer"), .apply (.grantRoleToUser "reader" "alice"),
      .apply (.grantRoleToUser "writer" "alice")]
    let s := (inMemory .standard).after (.founded .standard) acts
    (s.users.get? "alice").any (·.hasRole "reader") = true ∧
      ∃ s', ((inMemory .standard).apply (.dropRole "reader")).run s = (.ok (), s') ∧
        s'.users.get? "alice" =
          (s.users.get? "alice").map (fun u => { u with roles := u.roles.erase "reader" }) ∧
        s'.roles.get? "writer" = s.roles.get? "writer" := by
  intro acts s
  have hopen : (openMemory .standard).run .empty =
      (.ok (inMemory .standard), .founded .standard) := rfl
  refine ⟨by decide +kernel, ?_⟩
  have hstored : s.roles.contains "reader" = true := by decide +kernel
  rcases apply_confined hopen acts (.dropRole "reader") with ⟨fault, hfail⟩ | ⟨s', hrun, hs'⟩
  · have hdrop : ((inMemory .standard).apply (.dropRole "reader")).run s =
        (.ok (), s.dropRole "reader") := by
      rw [apply, run_orFail, run_dropRole, if_pos hstored]
    cases hfail.symm.trans hdrop
  · exact ⟨s', hrun, hs'.dropped rfl "alice", hs'.role (by decide)⟩

end Authority

end Warden
