import Warden.Authority.Answers
import Warden.Authority.Backends
import Warden.Authority.Management

namespace Warden

namespace Registry

def putUser (s : Registry) (u : User) : Registry := { s with users := s.users.insert u.name u }

def putRole (s : Registry) (r : Role) : Registry := { s with roles := s.roles.insert r.name r }

/-- The registry of an authority that was just opened: the administrator and nobody else. -/
def founded (config : Config) : Registry :=
  empty.putUser (.new config.adminName (Password.stored config.adminName config.adminPassword))

def rolesNamed (s : Registry) (names : List String) : List Role := names.filterMap s.roles.get?

/-- Whether a stored user passes a check, by own grants or by those of a stored role. -/
def allows (s : Registry) (u : User) (p : Privilege) (target : Target) (option : Bool) : Bool :=
  u.allows p target option || (s.rolesNamed u.roles.keys).any (·.allows p target option)

theorem mem_rolesNamed {s : Registry} {u : User} {r : Role} : r ∈ s.rolesNamed u.roles.keys ↔
    ∃ rolename, u.hasRole rolename = true ∧ s.roles.get? rolename = some r := by
  rw [rolesNamed, List.mem_filterMap]
  exact exists_congr fun rolename => and_congr_left fun _ => KeyMap.mem_keys_iff

theorem allows_iff {s : Registry} {u : User} {p : Privilege} {target : Target} {option : Bool} :
    s.allows u p target option = true ↔ u.allows p target option = true ∨
      ∃ rolename r, u.hasRole rolename = true ∧ s.roles.get? rolename = some r ∧
        r.allows p target option = true := by
  rw [allows, Bool.or_eq_true, List.any_eq_true]
  refine or_congr_right ?_
  constructor
  · rintro ⟨r, hmem, hallows⟩
    obtain ⟨rolename, hrole, hr⟩ := mem_rolesNamed.1 hmem
    exact ⟨rolename, r, hrole, hr, hallows⟩
  · rintro ⟨rolename, r, hrole, hr, hallows⟩
    exact ⟨r, mem_rolesNamed.2 ⟨rolename, hrole, hr⟩, hallows⟩

def found (s : Registry) : Query → Except Fault (List String)
  | .listUsers => .ok s.users.keys
  | .listRoles => .ok s.roles.keys
  | .listRolesOfUser username =>
    match s.users.get? username with
    | none => .error (.noSuchUser username)
    | some u => .ok u.roles.keys
  | .listUsersOfRole rolename =>
    match s.roles.get? rolename with
    | none => .error (.noSuchRole rolename)
    | some _ => .ok (s.users.keys.filter fun username =>
        (s.users.get? username).any (·.hasRole rolename))

def listing (s : Registry) (q : Query) : Except Fault (List String) :=
  (s.found q).map sortNames

structure Named (s : Registry) : Prop where
  user : ∀ {username u}, s.users.get? username = some u → u.name = username
  role : ∀ {rolename r}, s.roles.get? rolename = some r → r.name = rolename

theorem getUser_putUser (s : Registry) (u : User) (username : String) :
    (s.putUser u).users.get? username =
      if username = u.name then some u else s.users.get? username :=
  KeyMap.get?_insert s.users u.name u username

theorem getRole_putRole (s : Registry) (r : Role) (rolename : String) :
    (s.putRole r).roles.get? rolename =
      if rolename = r.name then some r else s.roles.get? rolename :=
  KeyMap.get?_insert s.roles r.name r rolename

theorem named_empty : empty.Named where
  user h := by simp [empty] at h
  role h := by simp [empty] at h

theorem Named.putUser {s : Registry} (hs : s.Named) (u : User) : (s.putUser u).Named where
  user h := by
    rw [getUser_putUser] at h
    split at h
    · cases h
      symm
      assumption
    · exact hs.user h
  role h := hs.role h

theorem Named.putRole {s : Registry} (hs : s.Named) (r : Role) : (s.putRole r).Named where
  user h := hs.user h
  role h := by
    rw [getRole_putRole] at h
    split at h
    · cases h
      symm
      assumption
    · exact hs.role h

theorem named_founded (config : Config) : (founded config).Named := named_empty.putUser _

end Registry

namespace Authority

open Warden.Action

def inMemory (config : Config) : Authority Registry :=
  ⟨config.adminName, config.minNameLength, config.minPasswordLength, Registry.backend⟩

variable {config : Config} {s : Registry}

theorem isAdmin_inMemory (username : String) :
    (inMemory config).isAdmin username = decide (config.adminName = username) := rfl

@[simp] theorem run_user? (username : String) :
    ((inMemory config).user? username).run s = (.ok (s.users.get? username), s) := rfl

@[simp] theorem run_role? (rolename : String) :
    ((inMemory config).role? rolename).run s = (.ok (s.roles.get? rolename), s) := rfl

@[simp] theorem run_listUsers : (inMemory config).listUsers.run s = (.ok s.users.keys, s) := rfl

theorem run_addUser (u : User) :
    ((inMemory config).addUser u).run s =
      if s.users.contains u.name then (.ok false, s) else (.ok true, s.putUser u) := by
  rw [addUser, run_bind_ok (run_user? u.name), KeyMap.contains]
  cases s.users.get? u.name <;> rfl

/-- Opening in memory fails on bad settings only, and leaves the administrator behind. -/
theorem run_openMemory : (openMemory config).run .empty =
    match config.validate with
    | .ok () => (.ok (inMemory config), .founded config)
    | .error fault => (.error fault, .empty) := by
  rw [openMemory, start, run_bind, run_ofExcept]
  cases config.validate <;> rfl

theorem of_openMemory {a : Authority Registry}
    (h : (openMemory config).run .empty = (.ok a, s)) :
    a = inMemory config ∧ s = .founded config := by
  rw [run_openMemory] at h
  split at h
  · cases h
    exact ⟨rfl, rfl⟩
  · cases h

theorem validate_of_openMemory {a : Authority Registry}
    (h : (openMemory config).run .empty = (.ok a, s)) : config.validate = .ok () := by
  rw [run_openMemory] at h
  cases hvalid : config.validate with
  | ok => rfl
  | error fault =>
    rw [hvalid] at h
    cases h

theorem run_storedRoles (names : List String) :
    ((inMemory config).storedRoles names).run s = (.ok (s.rolesNamed names), s) := by
  induction names with
  | nil => rfl
  | cons name names ih =>
    rw [storedRoles, run_bind_ok (run_role? name), run_bind_ok ih, Registry.rolesNamed,
      Registry.rolesNamed, List.filterMap_cons]
    cases s.roles.get? name <;> rfl

theorem run_snapshot (username : String) :
    ((inMemory config).snapshot username).run s =
      (.ok ((s.users.get? username).map fun u => (u, s.rolesNamed u.roles.keys)), s) := by
  rw [snapshot, run_bind_ok (run_user? username)]
  cases s.users.get? username with
  | none => rfl
  | some u =>
    change Action.run (_ >>= _) s = _
    rw [run_bind_ok (run_storedRoles u.roles.keys)]
    rfl

theorem passes_inMemory (u : User) (username : String) (p : Privilege) (option : Bool)
    (target : Target) :
    (inMemory config).passes u (s.rolesNamed u.roles.keys) username p option target =
      (decide (config.adminName = username) || s.allows u p target option) := by
  rw [passes, isAdmin_inMemory, Bool.or_assoc]
  rfl

theorem requestFlaw?_eq_none {r : PrivilegeRequest} (hscope : r.privilege.scope = r.scope)
    (hdatabase : r.scope = .object → r.database.isSome = true) :
    requestFlaw? r = none := by
  rw [requestFlaw?, Privilege.check_eq_ok hscope]
  refine if_neg ?_
  rintro ⟨hobject, hnone⟩
  have := hdatabase hobject
  rw [hnone] at this
  cases this

theorem run_checkPrivilege_flawed {r : PrivilegeRequest} {status : Status}
    (hflaw : requestFlaw? r = some status) :
    ((inMemory config).checkPrivilege r).run s = (.ok (.bare status), s) := by
  rw [checkPrivilege, hflaw]
  rfl

theorem run_fetchTree_misplaced {r : PrivilegeRequest} {fault : Fault}
    (hscope : r.privilege.check .path = .error fault) :
    ((inMemory config).fetchTree r).run s = (.ok (.bare fault.status), s) := by
  rw [fetchTree, hscope]
  rfl

section Stored

variable {username : String} {u : User}

theorem run_checkPrivilege_unknown {r : PrivilegeRequest} (hflaw : requestFlaw? r = none)
    (hu : s.users.get? r.username = none) : ((inMemory config).checkPrivilege r).run s =
      (.ok (.bare (unknownUser r.username)), s) := by
  rw [checkPrivilege, hflaw]
  change Action.run (_ >>= _) s = _
  rw [run_bind_ok (run_snapshot r.username), hu]
  rfl

theorem run_checkPrivilege_stored {r : PrivilegeRequest} (hflaw : requestFlaw? r = none)
    (hu : s.users.get? r.username = some u) : ((inMemory config).checkPrivilege r).run s =
      let failed := failures (fun target => decide (config.adminName = r.username) ||
        s.allows u r.privilege target r.grantOption) r.targets
      (.ok {
        status := if failed.isEmpty then .success else .bare .noPermission
        user := some u
        roles := s.rolesNamed u.roles.keys
        failedPositions := if r.scope = .path then failed else [] }, s) := by
  rw [checkPrivilege, hflaw]
  change Action.run (_ >>= _) s = _
  rw [run_bind_ok (run_snapshot r.username), hu]
  simp only [← passes_inMemory]
  rfl

theorem run_login_unknown {password : String} (hu : s.users.get? username = none) :
    ((inMemory config).login ⟨username, password⟩).run s =
      (.ok (.bare (unknownUser username)), s) := by
  rw [login, run_bind_ok (run_snapshot username), hu]
  rfl

theorem run_login_stored {password : String} (hu : s.users.get? username = some u) :
    ((inMemory config).login ⟨username, password⟩).run s =
      (.ok (if u.accepts username password
        then ⟨.success, some u, s.rolesNamed u.roles.keys, []⟩
        else .bare authenticationFailed), s) := by
  rw [login, run_bind_ok (run_snapshot username), hu]
  rfl

theorem run_checkMembership_unknown {rolename : String} (hu : s.users.get? username = none) :
    ((inMemory config).checkMembership ⟨username, rolename⟩).run s =
      (.ok (.bare (unknownUser username)), s) := by
  rw [checkMembership, run_bind_ok (run_snapshot username), hu]
  rfl

theorem run_checkMembership_stored {rolename : String} (hu : s.users.get? username = some u) :
    ((inMemory config).checkMembership ⟨username, rolename⟩).run s =
      (.ok ⟨if u.openId || u.hasRole rolename then .success
        else .explained .userNotHasRole ("user " ++ username ++ " does not have role " ++ rolename),
        some u, s.rolesNamed u.roles.keys, []⟩, s) := by
  rw [checkMembership, run_bind_ok (run_snapshot username), hu]
  rfl

theorem run_fetchTree_unknown {r : PrivilegeRequest} (hscope : r.privilege.check .path = .ok ())
    (hu : s.users.get? r.username = none) :
    ((inMemory config).fetchTree r).run s = (.ok (.bare (unknownUser r.username)), s) := by
  rw [fetchTree, hscope]
  change Action.run (_ >>= _) s = _
  rw [run_bind_ok (run_snapshot r.username), hu]
  rfl

theorem run_fetchTree_stored {r : PrivilegeRequest} (hscope : r.privilege.check .path = .ok ())
    (hu : s.users.get? r.username = some u) :
    ((inMemory config).fetchTree r).run s =
      (.ok ⟨.success, PatternTree.toBytes
        (if decide (config.adminName = r.username) || u.openId then .everything
          else .ofHolders r.privilege u (s.rolesNamed u.roles.keys)),
        some u, s.rolesNamed u.roles.keys⟩, s) := by
  rw [fetchTree, hscope]
  change Action.run (_ >>= _) s = _
  rw [run_bind_ok (run_snapshot r.username), hu]
  rfl

end Stored

@[simp] theorem run_listRoles : (inMemory config).listRoles.run s = (.ok s.roles.keys, s) := rfl

variable (config s)

theorem run_holders (rolename : String) (usernames : List String) :
    ((inMemory config).holders rolename usernames).run s =
      (.ok (usernames.filter fun username =>
        (s.users.get? username).any (·.hasRole rolename)), s) := by
  induction usernames with
  | nil => rfl
  | cons username usernames ih =>
    rw [holders, run_bind_ok (run_user? username), run_bind_ok ih, List.filter_cons]
    rfl

theorem run_answer (q : Query) : ((inMemory config).answer q).run s = (s.listing q, s) := by
  cases q with
  | listUsers => rfl
  | listRoles => rfl
  | listRolesOfUser username =>
    rw [answer, run_bind_ok (run_user? username), Registry.listing, Registry.found]
    cases s.users.get? username <;> rfl
  | listUsersOfRole rolename =>
    rw [answer, run_bind_ok (run_role? rolename), Registry.listing, Registry.found]
    cases s.roles.get? rolename with
    | none => rfl
    | some r =>
      change Action.run (_ >>= _) s = _
      rw [run_bind_ok run_listUsers, run_bind_ok (run_holders config s rolename s.users.keys)]
      rfl

/-- A query may fail, but it changes nothing. -/
theorem run_query (q : Query) : ∃ response, ((inMemory config).query q).run s = (.ok response, s) :=
  ⟨outcomeResponse (s.listing q), by rw [run_query_eq, run_answer]⟩

end Authority

end Warden
