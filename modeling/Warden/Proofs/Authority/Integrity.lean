import Warden.Proofs.Authority.Frame
import Warden.Proofs.KeyMap
import Warden.Proofs.Sorting
import Warden.Proofs.Text.ByteOrder

namespace Warden

inductive Act
  | apply (o : Operation)
  /-- What the operation is for, where a name that is taken or missing is no failure. -/
  | carryOut (o : Operation)
  | createOpenIdUser (username : String)
  | initAdmin (password : String)
  | request (r : Request)
  deriving DecidableEq

namespace Authority

variable {σ : Type}

/-- An operation that takes a name that is taken or missing for no failure. -/
def carryOut (a : Authority σ) : Operation → Action σ Unit
  | .createUser username password => discard (a.createUser username password)
  | .dropUser username => discard (a.dropUser username)
  | .createRole rolename => discard (a.createRole rolename)
  | .dropRole rolename => discard (a.dropRole rolename)
  | o => a.apply o

def serve (a : Authority σ) : Request → Action σ Unit
  | .checkPrivilege r => discard (a.checkPrivilege r)
  | .login r => discard (a.login r)
  | .checkMembership r => discard (a.checkMembership r)
  | .fetchTree r => discard (a.fetchTree r)
  | .operate o => discard (a.operate o)
  | .query q => discard (a.query q)

def act (a : Authority σ) : Act → Action σ Unit
  | .apply o => a.apply o
  | .carryOut o => a.carryOut o
  | .createOpenIdUser username => discard (a.createOpenIdUser username)
  | .initAdmin password => discard (a.initAdmin password)
  | .request r => a.serve r

def after (a : Authority σ) (s : σ) (acts : List Act) : σ :=
  acts.foldl (fun s x => ((a.act x).run s).2) s

end Authority

namespace Registry

variable {adminName : String} {s : Registry}

/-- The administrator is there, nobody goes without a name, and users list stored roles only. -/
structure Linked (adminName : String) (s : Registry) : Prop where
  admin : ∃ u, s.users.get? adminName = some u
  nameless : s.users.get? "" = none
  role : ∀ {username u rolename}, s.users.get? username = some u → u.hasRole rolename = true →
    ∃ r, s.roles.get? rolename = some r

theorem Linked.putUser (h : s.Linked adminName) {u : User} (hname : u.name ≠ "")
    (hroles : ∀ rolename, u.hasRole rolename = true → ∃ r, s.roles.get? rolename = some r) :
    (s.putUser u).Linked adminName where
  admin := by
    rw [getUser_putUser]
    split
    · exact ⟨u, rfl⟩
    · exact h.admin
  nameless := by
    rw [getUser_putUser, if_neg (Ne.symm hname)]
    exact h.nameless
  role hu hrole := by
    rw [getUser_putUser] at hu
    split at hu
    · cases hu
      exact hroles _ hrole
    · exact h.role hu hrole

theorem Linked.name_ne (h : s.Linked adminName) {username : String} {u : User}
    (hu : s.users.get? username = some u) : username ≠ "" := by
  rintro rfl
  rw [h.nameless] at hu
  cases hu

theorem Linked.keepUser (h : s.Linked adminName) {change : User × Bool} {u : User}
    (hu : s.users.get? change.1.name = some u)
    (hroles : ∀ rolename, change.1.hasRole rolename = true →
      ∃ r, s.roles.get? rolename = some r) : (s.keepUser change).Linked adminName := by
  rw [Registry.keepUser]
  split
  · exact h.putUser (h.name_ne hu) hroles
  · exact h

theorem Linked.putRole (h : s.Linked adminName) (r : Role) : (s.putRole r).Linked adminName where
  admin := h.admin
  nameless := h.nameless
  role hu hrole := by
    rw [getRole_putRole]
    split
    · exact ⟨r, rfl⟩
    · exact h.role hu hrole

theorem Linked.keepRole (h : s.Linked adminName) (change : Role × Bool) :
    (s.keepRole change).Linked adminName := by
  rw [Registry.keepRole]
  split
  · exact h.putRole change.1
  · exact h

theorem Linked.dropUser (h : s.Linked adminName) {username : String}
    (hadmin : adminName ≠ username) : (s.dropUser username).Linked adminName where
  admin := by
    rw [getUser_dropUser, if_neg hadmin]
    exact h.admin
  nameless := by
    rw [getUser_dropUser, h.nameless, ite_self]
  role hu hrole := by
    rw [getUser_dropUser] at hu
    split at hu
    · cases hu
    · exact h.role hu hrole

/-- The role goes, and with it every mention of it. -/
theorem Linked.dropRole (h : s.Linked adminName) (hn : s.Named) (rolename : String) :
    (s.dropRole rolename).Linked adminName where
  admin := by
    obtain ⟨u, hu⟩ := h.admin
    rw [getUser_dropRole hn, hu]
    exact ⟨_, rfl⟩
  nameless := by
    rw [getUser_dropRole hn, h.nameless]
    rfl
  role hu hrole := by
    rw [getUser_dropRole hn] at hu
    obtain ⟨u, hstored, rfl⟩ := Option.map_eq_some_iff.1 hu
    rw [User.hasRole_removeRole, Bool.and_eq_true, Bool.not_eq_true', decide_eq_false_iff_not]
      at hrole
    rw [getRole_dropRole, if_neg hrole.1]
    exact h.role hstored hrole.2

structure Intact (config : Config) (s : Registry) : Prop extends s.Linked config.adminName where
  named : s.Named
  unnamed : s.roles.get? "" = none

end Registry

namespace Authority

open Warden.Action Registry

variable {config : Config} {s s' : Registry} {o : Operation}

theorem Effect.linked (h : Effect config s o s') (hlength : 0 < config.minNameLength)
    (hn : s.Named) (hs : s.Linked config.adminName) : s'.Linked config.adminName := by
  cases h with
  | @createUser username password hname =>
    refine hs.putUser ?_ fun rolename hrole => ?_
    · rintro rfl
      simp [nameFlaw?, inMemory, hlength] at hname
    · simp [User.new, User.hasRole, KeyMap.contains] at hrole
  | dropUser hadmin => exact hs.dropUser hadmin
  | updatePassword _ hu =>
    exact hs.putUser (hs.name_ne (hn.user hu ▸ hu)) fun _ hrole => hs.role hu hrole
  | createRole => exact hs.putRole _
  | dropRole => exact hs.dropRole hn _
  | @grantRoleToUser rolename username r u hr hu =>
    refine hs.keepUser (hn.user hu ▸ hu) fun name hrole => ?_
    rw [User.hasRole_addRole, Bool.or_eq_true, decide_eq_true_iff] at hrole
    -- The new role of the user was looked up first.
    rcases hrole with rfl | hrole
    · exact ⟨r, hr⟩
    · exact hs.role hu hrole
  | revokeRoleFromUser hu =>
    refine hs.keepUser (hn.user hu ▸ hu) fun name hrole => ?_
    rw [User.hasRole_removeRole, Bool.and_eq_true] at hrole
    exact hs.role hu hrole.2
  | grantUser hu => exact hs.keepUser (hn.user hu ▸ hu) fun _ hrole => hs.role hu hrole
  | revokeUser hu => exact hs.keepUser (hn.user hu ▸ hu) fun _ hrole => hs.role hu hrole
  | revokeUserGrantOption hu => exact hs.keepUser (hn.user hu ▸ hu) fun _ hrole => hs.role hu hrole
  | grantRole => exact hs.keepRole _
  | revokeRole => exact hs.keepRole _
  | revokeRoleGrantOption => exact hs.keepRole _

theorem Effect.intact (h : Effect config s o s') (hlength : 0 < config.minNameLength)
    (hs : s.Intact config) : s'.Intact config where
  toLinked := h.linked hlength hs.named hs.toLinked
  named := h.named hs.named
  unnamed := h.unnamed hlength hs.named hs.unnamed

theorem state_discard {σ α : Type} (x : Action σ α) (s : σ) :
    ((discard x).run s).2 = (x.run s).2 := by
  rw [run_discard]
  rcases x.run s with ⟨_ | _, s'⟩ <;> rfl

theorem registry_orFail (x : Action Registry Bool) (fault : Fault) :
    ((orFail x fault).run s).2 = (x.run s).2 := by
  rw [run_orFail]
  rcases x.run s with ⟨_ | b, s'⟩
  · rfl
  · cases b <;> rfl

theorem registry_carryOut (o : Operation) :
    (((inMemory config).carryOut o).run s).2 = (((inMemory config).apply o).run s).2 := by
  cases o with
  | createUser => rw [carryOut, apply, state_discard, registry_orFail]
  | dropUser => rw [carryOut, apply, state_discard, registry_orFail]
  | createRole => rw [carryOut, apply, state_discard, registry_orFail]
  | dropRole => rw [carryOut, apply, state_discard, registry_orFail]
  | _ => rfl

theorem registry_apply (o : Operation) (s : Registry) :
    (((inMemory config).apply o).run s).2 = s ∨
      Effect config s o (((inMemory config).apply o).run s).2 := by
  rcases run_apply config o s with ⟨fault, hrun⟩ | ⟨s', hrun, heffect⟩
  · rw [hrun]
    exact .inl rfl
  · rw [hrun]
    exact .inr heffect

/-- The administrator is there already. -/
theorem run_initAdmin (hs : s.Intact config) (password : String) :
    ((inMemory config).initAdmin password).run s = (.ok false, s) := by
  obtain ⟨u, hu⟩ := hs.admin
  have hcontains : s.users.contains config.adminName = true := KeyMap.contains_of_get? hu
  rw [initAdmin, run_addUser]
  exact if_pos hcontains

theorem registry_serve {r : Request} (hr : ∀ o, r ≠ .operate o) :
    (((inMemory config).serve r).run s).2 = s := by
  cases r with
  | operate o => exact absurd rfl (hr o)
  | query q =>
    obtain ⟨response, hrun⟩ := run_query config s q
    rw [serve, state_discard, hrun]
  | checkPrivilege r =>
    rw [serve, state_discard]
    cases hflaw : requestFlaw? r with
    | some status => rw [run_checkPrivilege_flawed hflaw]
    | none =>
      cases hu : s.users.get? r.username with
      | none => rw [run_checkPrivilege_unknown hflaw hu]
      | some u => rw [run_checkPrivilege_stored hflaw hu]
  | login r =>
    rw [serve, state_discard]
    cases hu : s.users.get? r.username with
    | none => rw [run_login_unknown hu]
    | some u => rw [run_login_stored hu]
  | checkMembership r =>
    rw [serve, state_discard]
    cases hu : s.users.get? r.username with
    | none => rw [run_checkMembership_unknown hu]
    | some u => rw [run_checkMembership_stored hu]
  | fetchTree r =>
    rw [serve, state_discard]
    cases hscope : r.privilege.check .path with
    | error fault => rw [run_fetchTree_misplaced hscope]
    | ok =>
      cases hu : s.users.get? r.username with
      | none => rw [run_fetchTree_unknown hscope hu]
      | some u => rw [run_fetchTree_stored hscope hu]

/-- An act leaves the registry as it is, has the effect of an operation, or adds an open identity. -/
theorem registry_act (hs : s.Intact config) (x : Act) :
    let s' := (((inMemory config).act x).run s).2
    s' = s ∨ (∃ o, Effect config s o s') ∨
      ∃ username, (inMemory config).nameFlaw? username = none ∧
        s' = s.putUser (.openIdentity username) := by
  dsimp only
  cases x with
  | apply o => exact (registry_apply o s).imp_right fun h => .inl ⟨o, h⟩
  | carryOut o =>
    rw [act, registry_carryOut]
    exact (registry_apply o s).imp_right fun h => .inl ⟨o, h⟩
  | createOpenIdUser username =>
    rw [act, state_discard, run_createOpenIdUser]
    cases hname : (inMemory config).nameFlaw? username with
    | some reason => exact .inl rfl
    | none =>
      dsimp only
      split
      · exact .inl rfl
      · exact .inr (.inr ⟨username, hname, rfl⟩)
  | initAdmin password =>
    rw [act, state_discard, run_initAdmin hs password]
    exact .inl rfl
  | request r =>
    by_cases hr : ∃ o, r = .operate o
    · obtain ⟨o, rfl⟩ := hr
      rw [act, serve, state_discard, run_operate_eq]
      exact (registry_apply o s).imp_right fun h => .inl ⟨o, h⟩
    · exact .inl (registry_serve fun o h => hr ⟨o, h⟩)

theorem intact_act (hlength : 0 < config.minNameLength) (hs : s.Intact config) (x : Act) :
    (((inMemory config).act x).run s).2.Intact config := by
  rcases registry_act hs x with hsame | ⟨o, heffect⟩ | ⟨username, hname, hadded⟩
  · rwa [hsame]
  · exact heffect.intact hlength hs
  · rw [hadded]
    refine ⟨hs.putUser ?_ fun rolename hrole => ?_, hs.named.putUser _, hs.unnamed⟩
    · rintro rfl
      simp [nameFlaw?, inMemory, hlength] at hname
    · simp [User.openIdentity, User.hasRole, KeyMap.contains] at hrole

theorem intact_founded (hadmin : config.adminName ≠ "") : (founded config).Intact config where
  admin := ⟨_, (getUser_putUser ..).trans (if_pos rfl)⟩
  nameless := (getUser_putUser ..).trans (if_neg (Ne.symm hadmin))
  role hu hrole := by
    rw [founded, getUser_putUser] at hu
    split at hu
    · cases hu
      simp [User.new, User.hasRole, KeyMap.contains] at hrole
    · cases hu
  named := named_founded config
  unnamed := rfl

theorem intact_after {a : Authority Registry}
    (hopen : (openMemory config).run .empty = (.ok a, s)) (acts : List Act) :
    a = inMemory config ∧ (a.after s acts).Intact config := by
  have hflaw : config.flaw? = none := Config.flaw?_of_validate (validate_of_openMemory hopen)
  have hlength : 0 < config.minNameLength := Config.minNameLength_pos hflaw
  obtain ⟨rfl, rfl⟩ := of_openMemory hopen
  refine ⟨rfl, ?_⟩
  have hs : (founded config).Intact config := intact_founded (Config.adminName_ne hflaw)
  -- Each act keeps the registry intact, from whatever intact registry it starts.
  generalize founded config = s at hs
  induction acts generalizing s with
  | nil => exact hs
  | cons x acts ih => exact ih _ (intact_act hlength hs x)

/-- Ascending by the bytes of the names, each name once. -/
def InByteOrder (names : List String) : Prop :=
  names.Pairwise fun x y => Text.bytes x < Text.bytes y

theorem inByteOrder_of_ascending {names : List String} (h : names.Pairwise (· < ·)) :
    InByteOrder names := h.imp Text.bytes_lt

/-- No name is found twice. -/
theorem nodup_found {q : Query} {names : List String} (h : s.found q = .ok names) :
    names.Nodup := by
  cases q with
  | listUsers => exact Except.ok.inj h ▸ s.users.nodup_keys
  | listRoles => exact Except.ok.inj h ▸ s.roles.nodup_keys
  | listRolesOfUser username =>
    rw [found] at h
    cases hu : s.users.get? username with
    | none =>
      rw [hu] at h
      cases h
    | some u =>
      rw [hu] at h
      exact Except.ok.inj h ▸ u.roles.nodup_keys
  | listUsersOfRole rolename =>
    rw [found] at h
    cases hr : s.roles.get? rolename with
    | none =>
      rw [hr] at h
      cases h
    | some r =>
      rw [hr] at h
      -- The holders are some of the users, and no user is stored twice.
      exact Except.ok.inj h ▸ s.users.nodup_keys.filter _

theorem inByteOrder_listing {q : Query} {names : List String} (h : s.listing q = .ok names) :
    InByteOrder names := by
  rw [listing] at h
  cases hfound : s.found q with
  | error fault =>
    rw [hfound] at h
    cases h
  | ok found =>
    rw [hfound] at h
    obtain rfl : sortNames found = names := Except.ok.inj h
    exact inByteOrder_of_ascending (sortNames_ascending (nodup_found hfound))

theorem listing_rolesOfUser {username : String} {u : User}
    (hu : s.users.get? username = some u) :
    ∃ held, s.listing (.listRolesOfUser username) = .ok held ∧
      ∀ rolename, rolename ∈ held ↔ u.hasRole rolename = true := by
  refine ⟨sortNames u.roles.keys, by rw [listing, found, hu]; rfl, fun rolename => ?_⟩
  rw [mem_sortNames]
  exact KeyMap.mem_keys_iff

theorem listing_usersOfRole {rolename : String} {r : Role}
    (hr : s.roles.get? rolename = some r) :
    ∃ holders, s.listing (.listUsersOfRole rolename) = .ok holders ∧
      ∀ username, username ∈ holders ↔
        ∃ u, s.users.get? username = some u ∧ u.hasRole rolename = true := by
  refine ⟨sortNames _, by rw [listing, found, hr]; rfl, fun username => ?_⟩
  rw [mem_sortNames, List.mem_filter, KeyMap.mem_keys_iff]
  cases s.users.get? username <;> simp

/-- A snapshot has all the roles that its user lists. -/
theorem snapshot_complete (hs : s.Intact config) {username : String} {u : User}
    (hu : s.users.get? username = some u) :
    ∃ roles, ((inMemory config).snapshot username).run s = (.ok (some (u, roles)), s) ∧
      roles.map Role.name = u.roles.keys := by
  refine ⟨_, by rw [run_snapshot, hu]; rfl, ?_⟩
  have hstored : ∀ rolename ∈ u.roles.keys, ∃ r, s.roles.get? rolename = some r :=
    fun rolename hmem => hs.role hu (KeyMap.mem_keys_iff.1 hmem)
  generalize u.roles.keys = rolenames at hstored
  induction rolenames with
  | nil => rfl
  | cons rolename rolenames ih =>
    obtain ⟨⟨r, hr⟩, hrest⟩ := List.forall_mem_cons.1 hstored
    rw [rolesNamed, List.filterMap_cons, hr]
    rw [List.map_cons, hs.named.role hr, ← rolesNamed, ih hrest]

/-- The entries of a registry and what its authority lists fit together. -/
structure Coherent (a : Authority Registry) (s : Registry) : Prop where
  admin : ∃ u, s.users.get? a.adminName = some u
  userName : ∀ {username u}, s.users.get? username = some u → u.name = username
  roleName : ∀ {rolename r}, s.roles.get? rolename = some r → r.name = rolename
  role : ∀ {username u rolename}, s.users.get? username = some u → u.hasRole rolename = true →
    ∃ r, s.roles.get? rolename = some r
  snapshot : ∀ {username u}, s.users.get? username = some u →
    ∃ roles, (a.snapshot username).run s = (.ok (some (u, roles)), s) ∧
      roles.map Role.name = u.roles.keys
  listed : ∀ {username u rolename r}, s.users.get? username = some u →
    s.roles.get? rolename = some r →
      ∃ held holders, (a.answer (.listRolesOfUser username)).run s = (.ok held, s) ∧
        (a.answer (.listUsersOfRole rolename)).run s = (.ok holders, s) ∧
        (username ∈ holders ↔ rolename ∈ held) ∧ (rolename ∈ held ↔ u.hasRole rolename = true)
  known : ∀ {username u}, s.users.get? username = some u →
    ∃ held all, (a.answer (.listRolesOfUser username)).run s = (.ok held, s) ∧
      (a.answer .listRoles).run s = (.ok all, s) ∧ ∀ rolename ∈ held, rolename ∈ all
  answers : ∀ {q names}, (a.answer q).run s = (.ok names, s) → InByteOrder names
  users : ∃ names, a.listUsers.run s = (.ok names, s) ∧ InByteOrder names
  roles : ∃ names, a.listRoles.run s = (.ok names, s) ∧ InByteOrder names

theorem coherent_of_intact (hs : s.Intact config) : Coherent (inMemory config) s where
  admin := hs.admin
  userName := hs.named.user
  roleName := hs.named.role
  role := hs.role
  snapshot := snapshot_complete hs
  listed hu hr := by
    obtain ⟨held, hheld, hmem⟩ := listing_rolesOfUser hu
    obtain ⟨holders, hholders, hmem'⟩ := listing_usersOfRole hr
    refine ⟨held, holders, by rw [run_answer, hheld], by rw [run_answer, hholders], ?_, hmem _⟩
    rw [hmem, hmem', hu]
    simp
  known hu := by
    obtain ⟨held, hheld, hmem⟩ := listing_rolesOfUser hu
    refine ⟨held, _, by rw [run_answer, hheld], run_answer config s .listRoles, ?_⟩
    intro rolename hrole
    obtain ⟨r, hr⟩ := hs.role hu ((hmem rolename).1 hrole)
    rw [mem_sortNames, KeyMap.mem_keys_iff, hr]
    rfl
  answers h := by
    rw [run_answer] at h
    exact inByteOrder_listing (Prod.mk.inj h).1
  users := ⟨_, run_listUsers, inByteOrder_of_ascending s.users.keys_ascending⟩
  roles := ⟨_, run_listRoles, inByteOrder_of_ascending s.roles.keys_ascending⟩

/-- Whatever was asked of an authority in memory, its registry and its listings fit together. -/
theorem after_coherent {a : Authority Registry} {registry : Registry}
    (hopen : (openMemory config).run .empty = (.ok a, registry)) (acts : List Act) :
    Coherent a (a.after registry acts) := by
  obtain ⟨ha, hintact⟩ := intact_after hopen acts
  subst ha
  exact coherent_of_intact hintact

/-- A role that was removed and made anew has no members from before. -/
theorem coherent_recreated_role :
    let acts : List Act := [.apply (.createUser "alice" "secret"), .apply (.createRole "reader"),
      .apply (.createRole "writer"), .apply (.grantRoleToUser "reader" "alice"),
      .apply (.grantRoleToUser "writer" "alice"), .carryOut (.dropRole "reader"),
      .initAdmin "other", .apply (.createRole "reader")]
    let s := (inMemory .standard).after (.founded .standard) acts
    ∃ held holders,
      ((inMemory .standard).answer (.listRolesOfUser "alice")).run s = (.ok held, s) ∧
      ((inMemory .standard).answer (.listUsersOfRole "reader")).run s = (.ok holders, s) ∧
      "reader" ∉ held ∧ "alice" ∉ holders := by
  intro acts s
  have hopen : (openMemory .standard).run .empty =
      (.ok (inMemory .standard), .founded .standard) := rfl
  have hcoherent : Coherent (inMemory .standard) s := after_coherent hopen acts
  have huser : (s.users.get? "alice").isSome = true := by decide +kernel
  have hrole : (s.roles.get? "reader").isSome = true := by decide +kernel
  have hnone : (s.users.get? "alice").any (·.hasRole "reader") = false := by decide +kernel
  obtain ⟨u, hu⟩ := Option.isSome_iff_exists.1 huser
  obtain ⟨r, hr⟩ := Option.isSome_iff_exists.1 hrole
  obtain ⟨held, holders, hheld, hholders, hmutual, hheldBy⟩ := hcoherent.listed hu hr
  rw [hu, Option.any_some] at hnone
  have hno : "reader" ∉ held := by
    rw [hheldBy, hnone]
    exact Bool.false_ne_true
  exact ⟨held, holders, hheld, hholders, hno, mt hmutual.1 hno⟩

end Authority

end Warden
