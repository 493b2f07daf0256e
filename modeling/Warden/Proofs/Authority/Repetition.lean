import Mathlib.Data.List.Induction
import Warden.Proofs.Authority.Integrity
import Warden.Proofs.Grants.Tidy

namespace Warden

theorem User.addRole_twice (u : User) (rolename : String) :
    ((u.addRole rolename).1.addRole rolename).1 = (u.addRole rolename).1 := by
  have hroles : NameSet.insert (NameSet.insert u.roles rolename) rolename =
      NameSet.insert u.roles rolename := KeyMap.insert_insert u.roles rolename () ()
  rw [addRole, addRole, hroles]

namespace Grants

variable {g g' : Grants} {c : Change} {changed : Bool}

/-- A holding on which a change has its effect is left alone by the same change. -/
theorem Change.effect_effect (c : Change) (h : Holding) :
    (c.effect (c.effect h).1).1 = (c.effect h).1 := by
  refine Holding.ext (fun q => ?_) fun q => ?_
  · cases c with
    | grant p _ option => by_cases hq : q = p <;> simp [effect, Holding.has_grant, hq]
    | grantOption p _ => by_cases hq : q = p <;> simp [effect, Holding.has_grant, hq]
    | revoke p _ => by_cases hq : q = p <;> simp [effect, Holding.has_revoke, hq]
    | revokeOption p _ => simp [effect, Holding.has_revokeOption]
  · cases c with
    | grant p _ option => by_cases hq : q = p <;> simp [effect, Holding.hasOption_grant, hq]
    | grantOption p _ => by_cases hq : q = p <;> simp [effect, Holding.hasOption_grant, hq]
    | revoke p _ => by_cases hq : q = p <;> simp [effect, Holding.hasOption_revoke, hq]
    | revokeOption p _ => by_cases hq : q = p <;> simp [effect, Holding.hasOption_revokeOption, hq]

/-- What was carried out once is not refused. -/
theorem exists_change_again (hs : g.Sound) (h : (change c).run g = (.ok changed, g')) :
    ∃ changed' next, (change c).run g' = (.ok changed', next) := by
  have hscope : c.privilege.scope = c.target.scope := (of_change h).1
  rcases hnext : (change c).run g' with ⟨fault | changed', next⟩
  · cases c with
    | grant p t option =>
      exact absurd hscope (Privilege.scope_ne_of_check (of_grant_error hnext).1)
    | grantOption p t =>
      -- What was made grantable is still held.
      have hheld : (g'.heldOn t).has p = true := by
        rw [(change_alters hs h).heldOn t]
        simp [Change.target, Change.effect, Holding.has_grant]
      have hgrant : (grant p t true).run g' = (.error fault, next) :=
        (run_grantOption_of_held hheld).symm.trans hnext
      exact absurd hscope (Privilege.scope_ne_of_check (of_grant_error hgrant).1)
    | revoke p t => exact absurd hscope (Privilege.scope_ne_of_check (of_revoke_error hnext).1)
    | revokeOption p t =>
      exact absurd hscope (Privilege.scope_ne_of_check (of_revokeOption_error hnext).1)
  · exact ⟨changed', next, rfl⟩

/-- A change that was carried out changes nothing more, and reports so. -/
theorem change_again (hs : g.Sound) (h : (change c).run g = (.ok changed, g')) :
    ∃ next, (change c).run g' = (.ok false, next) := by
  obtain ⟨changed', next, hnext⟩ := exists_change_again hs h
  have ha := change_alters hs h
  have hheld : g'.heldOn c.target = (c.effect (g.heldOn c.target)).1 := by
    rw [ha.heldOn, if_pos rfl]
  have hs' : g'.Sound := ha.sound (fun _ hx => c.sound_effect hx) hs
  have hchanged : changed' = (c.effect (g'.heldOn c.target)).2 := (change_alters hs' hnext).changed
  rw [hheld, c.silent_effect (c.effect_effect _)] at hchanged
  exact ⟨next, hchanged ▸ hnext⟩

end Grants

namespace Authority

open Warden.Action Registry

variable {config : Config} {s s' : Registry} {o : Operation}

theorem run_changeUser_ok {username : String} {u u' : User} {mutate : Action User Bool}
    {changed : Bool} (hu : s.users.get? username = some u)
    (hmutate : mutate.run u = (.ok changed, u')) :
    (discard ((inMemory config).updateUser username mutate)).run s =
      (.ok (), s.keepUser (u', changed)) := by
  rw [run_discard, run_updateUser, hu]
  dsimp only
  rw [hmutate]

theorem run_changeRole_ok {rolename : String} {r r' : Role} {mutate : Action Role Bool}
    {changed : Bool} (hr : s.roles.get? rolename = some r)
    (hmutate : mutate.run r = (.ok changed, r')) :
    (discard ((inMemory config).updateRole rolename mutate)).run s =
      (.ok (), s.keepRole (r', changed)) := by
  rw [run_discard, run_updateRole, hr]
  dsimp only
  rw [hmutate]

/-- A change that finds nothing more to do in the user it made is no change of the registry. -/
theorem run_changeUser_again (hs : s.Named) {username : String} {u u' next : User}
    {mutate : Action User Bool} {changed again : Bool} (hu : s.users.get? username = some u)
    (hmutate : mutate.run u = (.ok changed, u')) (hname : u'.name = u.name)
    (hnext : mutate.run u' = (.ok again, next)) (hsame : again = true → next = u') :
    let kept := s.keepUser (u', changed)
    (discard ((inMemory config).updateUser username mutate)).run kept = (.ok (), kept) := by
  have hself : username = u'.name := (hname.trans (hs.user hu)).symm
  intro kept
  cases changed with
  | false => exact run_changeUser_ok hu hmutate
  | true =>
    have hput : kept.users.get? username = some u' := by
      rw [show kept = s.putUser u' from rfl, getUser_putUser, if_pos hself]
    rw [run_changeUser_ok hput hnext, keepUser]
    split
    · rename_i hagain
      rw [hsame hagain, putUser, KeyMap.insert_eq_self (hself ▸ hput)]
    · rfl

theorem run_updateUser_again (f : User → User × Bool) (hs : s.Named) {username : String} {u : User}
    (hu : s.users.get? username = some u) (hname : (f u).1.name = u.name)
    (hsame : (f (f u).1).2 = true → (f (f u).1).1 = (f u).1) :
    (discard ((inMemory config).updateUser username (.update f))).run (s.keepUser (f u)) =
      (.ok (), s.keepUser (f u)) :=
  run_changeUser_again hs hu (run_update f u) hname (run_update f (f u).1) hsame

theorem run_changeRole_again (hs : s.Named) {rolename : String} {r r' next : Role}
    {mutate : Action Role Bool} {changed again : Bool} (hr : s.roles.get? rolename = some r)
    (hmutate : mutate.run r = (.ok changed, r')) (hname : r'.name = r.name)
    (hnext : mutate.run r' = (.ok again, next)) (hsame : again = true → next = r') :
    let kept := s.keepRole (r', changed)
    (discard ((inMemory config).updateRole rolename mutate)).run kept = (.ok (), kept) := by
  have hself : rolename = r'.name := (hname.trans (hs.role hr)).symm
  intro kept
  cases changed with
  | false => exact run_changeRole_ok hr hmutate
  | true =>
    have hput : kept.roles.get? rolename = some r' := by
      rw [show kept = s.putRole r' from rfl, getRole_putRole, if_pos hself]
    rw [run_changeRole_ok hput hnext, keepRole]
    split
    · rename_i hagain
      rw [hsame hagain, putRole, KeyMap.insert_eq_self (hself ▸ hput)]
    · rfl

theorem run_onUserGrants {x : Action Grants Bool} {u : User} {grants : Grants}
    {changed : Bool} (h : x.run u.grants = (.ok changed, grants)) :
    (onUserGrants x).run u = (.ok changed, { u with grants }) := by
  rw [onUserGrants, run_within, h]

theorem run_onRoleGrants {x : Action Grants Bool} {r : Role} {grants : Grants}
    {changed : Bool} (h : x.run r.grants = (.ok changed, grants)) :
    (onRoleGrants x).run r = (.ok changed, { r with grants }) := by
  rw [onRoleGrants, run_within, h]

/-- A change of a user's grants that was carried out changes nothing more. -/
theorem run_changeUserGrants_again (hn : s.Named) (hs : s.Sound) {username : String} {u : User}
    {c : Grants.Change} {grants : Grants} {changed : Bool} (hu : s.users.get? username = some u)
    (hgrants : (Grants.change c).run u.grants = (.ok changed, grants)) :
    let kept := s.keepUser ({ u with grants }, changed)
    (discard ((inMemory config).updateUser username (onUserGrants (Grants.change c)))).run kept =
      (.ok (), kept) := by
  obtain ⟨next, hagain⟩ := Grants.change_again (hs.user hu) hgrants
  have hnext := run_onUserGrants (u := { u with grants }) hagain
  exact run_changeUser_again hn hu (run_onUserGrants hgrants) rfl hnext nofun

theorem run_changeRoleGrants_again (hn : s.Named) (hs : s.Sound) {rolename : String} {r : Role}
    {c : Grants.Change} {grants : Grants} {changed : Bool} (hr : s.roles.get? rolename = some r)
    (hgrants : (Grants.change c).run r.grants = (.ok changed, grants)) :
    let kept := s.keepRole ({ r with grants }, changed)
    (discard ((inMemory config).updateRole rolename (onRoleGrants (Grants.change c)))).run kept =
      (.ok (), kept) := by
  obtain ⟨next, hagain⟩ := Grants.change_again (hs.role hr) hgrants
  have hnext := run_onRoleGrants (r := { r with grants }) hagain
  exact run_changeRole_again hn hr (run_onRoleGrants hgrants) rfl hnext nofun

end Authority

def Operation.again : Operation → Except Fault Unit
  | createUser username _ => .error (.userExists username)
  | dropUser username => .error (.noSuchUser username)
  | createRole rolename => .error (.roleExists rolename)
  | dropRole rolename => .error (.noSuchRole rolename)
  | _ => .ok ()

namespace Authority

open Warden.Action Registry

variable {config : Config} {s s' : Registry} {o : Operation}

/-- An operation that had its effect has no other when it is asked again. -/
theorem Effect.again (h : Effect config s o s') (hn : s.Named) (hs : s.Sound) :
    ((inMemory config).apply o).run s' = (o.again, s') := by
  cases h with
  | @createUser username password hname hpassword hnew =>
    have hget := (s.getUser_putUser (.new username (Password.stored username password)) username).trans
      (if_pos rfl)
    rw [apply, run_orFail, run_createUser, hname, hpassword]
    dsimp only
    rw [if_pos (KeyMap.contains_of_get? hget)]
    rfl
  | @dropUser username u hadmin hu =>
    have hget : (s.dropUser username).users.get? username = none := by
      rw [Registry.getUser_dropUser, if_pos rfl]
    have hgone : (s.dropUser username).dropUser username = s.dropUser username := by
      rw [Registry.dropUser, KeyMap.erase_eq_self hget]
    rw [apply, run_orFail, run_dropUser, if_neg hadmin, hgone, KeyMap.contains_of_none hget]
    rfl
  | @updatePassword username password u hpassword hu =>
    rw [apply, Authority.updatePassword, run_bind, run_checkPassword, hpassword]
    let rehash (u : User) : User :=
      { u with passwordHash := some (Password.stored username password) }
    exact run_updateUser_again (fun u => (rehash u, true)) hn hu rfl fun _ => rfl
  | @createRole rolename hname hnew =>
    have hget := (s.getRole_putRole (.new rolename) rolename).trans (if_pos rfl)
    rw [apply, run_orFail, run_createRole, hname]
    dsimp only
    rw [hget]
    rfl
  | @dropRole rolename r hr =>
    have hget : (s.dropRole rolename).roles.get? rolename = none := by
      rw [Registry.getRole_dropRole, if_pos rfl]
    rw [apply, run_orFail, run_dropRole, KeyMap.contains_of_none hget, KeyMap.erase_eq_self hget]
    rfl
  | @grantRoleToUser rolename username r u hr hu =>
    have hstored : (s.keepUser (u.addRole rolename)).roles.get? rolename = some r := by
      rw [Registry.roles_keepUser, hr]
    rw [apply, run_discard, run_grantRole, hstored]
    dsimp only
    rw [← run_discard]
    exact run_updateUser_again (·.addRole rolename) hn hu rfl fun _ => u.addRole_twice rolename
  | @revokeRoleFromUser rolename username u hu =>
    exact run_updateUser_again (·.removeRole rolename) hn hu rfl fun _ =>
      u.removeRole_twice rolename
  | grantUser hu hgrants => exact run_changeUserGrants_again hn hs hu (c := .grant ..) hgrants
  | revokeUser hu hgrants => exact run_changeUserGrants_again hn hs hu (c := .revoke ..) hgrants
  | revokeUserGrantOption hu hgrants =>
    exact run_changeUserGrants_again hn hs hu (c := .revokeOption ..) hgrants
  | grantRole hr hgrants => exact run_changeRoleGrants_again hn hs hr (c := .grant ..) hgrants
  | revokeRole hr hgrants => exact run_changeRoleGrants_again hn hs hr (c := .revoke ..) hgrants
  | revokeRoleGrantOption hr hgrants =>
    exact run_changeRoleGrants_again hn hs hr (c := .revokeOption ..) hgrants

theorem sound_founded (config : Config) : (founded config).Sound :=
  sound_empty.putUser Grants.sound_empty

theorem sound_act (hintact : s.Intact config) (hs : s.Sound) (x : Act) :
    (((inMemory config).act x).run s).2.Sound := by
  rcases registry_act hintact x with hsame | ⟨o, heffect⟩ | ⟨username, -, hadded⟩
  · rwa [hsame]
  · exact heffect.sound hintact.named hs
  · rw [hadded]
    exact hs.putUser Grants.sound_empty

theorem sound_after {a : Authority Registry} (hopen : (openMemory config).run .empty = (.ok a, s))
    (acts : List Act) : (a.after s acts).Sound := by
  -- The last act finds the registry intact, as the acts before it left it.
  induction acts using List.reverseRecOn with
  | nil =>
    obtain ⟨rfl, rfl⟩ := of_openMemory hopen
    exact sound_founded config
  | append_singleton acts x ih =>
    obtain ⟨rfl, hintact⟩ := intact_after hopen acts
    rw [after, List.foldl_append]
    exact sound_act hintact ih x

/-- Asked again at once, an operation changes nothing. It fails as it failed before; if it succeeded
before, it succeeds again unless it made or removed an entry. -/
theorem apply_again {a : Authority Registry} {registry : Registry}
    (hopen : (openMemory config).run .empty = (.ok a, registry)) (acts : List Act)
    (o : Operation) :
    let s := a.after registry acts
    let first := (a.apply o).run s
    let second := (a.apply o).run first.2
    second.2 = first.2 ∧ (∀ fault, first.1 = .error fault → second.1 = .error fault) ∧
      (first.1 = .ok () → second.1 = o.again) := by
  intro s first second
  have hsound : s.Sound := sound_after hopen acts
  obtain ⟨rfl, hintact⟩ := intact_after hopen acts
  rcases run_apply config o s with ⟨fault, hrun⟩ | ⟨s', hrun, heffect⟩
  · have hfirst : first = (.error fault, s) := hrun
    -- Nothing was changed, so the second call is the first one over.
    have hsecond : second = first := by
      have hstate : first.2 = s := by rw [hfirst]
      exact congrArg ((inMemory config).apply o).run hstate
    rw [hsecond, hfirst]
    exact ⟨rfl, fun _ h => h, nofun⟩
  · have hfirst : first = (.ok (), s') := hrun
    have hsecond : second = (o.again, s') := by
      have hstate : first.2 = s' := by rw [hfirst]
      exact (congrArg ((inMemory config).apply o).run hstate).trans
        (heffect.again hintact.named hsound)
    rw [hsecond, hfirst]
    exact ⟨rfl, nofun, fun _ => rfl⟩

/-- The second removal of a role finds no role, and leaves alone what its members still have. -/
theorem apply_again_dropRole :
    let acts : List Act := [.apply (.createUser "alice" "secret"), .apply (.createRole "reader"),
      .apply (.createRole "writer"), .apply (.grantRoleToUser "reader" "alice"),
      .apply (.grantRoleToUser "writer" "alice")]
    let s := (inMemory .standard).after (.founded .standard) acts
    let first := ((inMemory .standard).apply (.dropRole "reader")).run s
    let second := ((inMemory .standard).apply (.dropRole "reader")).run first.2
    first.1 = .ok () ∧ second = (.error (.noSuchRole "reader"), first.2) := by
  intro acts s first second
  have hopen : (openMemory .standard).run .empty =
      (.ok (inMemory .standard), .founded .standard) := rfl
  have hstored : s.roles.contains "reader" = true := by decide +kernel
  have hfirst : first.1 = .ok () := by
    change (((inMemory .standard).apply (.dropRole "reader")).run s).1 = .ok ()
    rw [apply, run_orFail, run_dropRole, if_pos hstored]
  obtain ⟨hstate, -, hdone⟩ := apply_again hopen acts (.dropRole "reader")
  exact ⟨hfirst, Prod.ext (hdone hfirst) hstate⟩

end Authority

end Warden
