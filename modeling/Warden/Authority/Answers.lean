import Warden.Authority.Management
import Warden.Codec.Tree
import Warden.Remote.Client

namespace Warden.Authority

variable {σ : Type}

/-- A user's roles that are stored; the others are passed over. -/
def storedRoles (a : Authority σ) : List String → Action σ (List Role)
  | [] => pure []
  | rolename :: rolenames => do
    let r ← a.role? rolename
    let rest ← a.storedRoles rolenames
    return r.toList ++ rest

def snapshot (a : Authority σ) (username : String) : Action σ (Option (User × List Role)) := do
  match ← a.user? username with
  | none => return none
  | some u => return some (u, ← a.storedRoles u.roles.keys)

def unknownUser (username : String) : Status :=
  .explained .userNotExist ("user " ++ username ++ " does not exist")

/-- Whether a user passes a check, by the user's own grants or by a role's. -/
def passes (a : Authority σ) (u : User) (roles : List Role) (username : String) (p : Privilege)
    (option : Bool) (target : Target) : Bool :=
  a.isAdmin username || u.allows p target option || roles.any (·.allows p target option)

/-- The places of the list whose members fail a test. -/
def failures {α : Type} (test : α → Bool) (xs : List α) : List Nat :=
  (xs.zipIdx.filter fun x => !test x.1).map (·.2)

theorem mem_failures {α : Type} {test : α → Bool} {xs : List α} {i : Nat} :
    i ∈ failures test xs ↔ ∃ x, xs[i]? = some x ∧ test x = false := by
  rw [failures, List.mem_map]
  constructor
  · rintro ⟨⟨x, j⟩, hx, rfl⟩
    obtain ⟨hx, htest⟩ := List.mem_filter.1 hx
    exact ⟨x, List.mem_zipIdx_iff_getElem?.1 hx, by simpa using htest⟩
  · rintro ⟨x, hx, htest⟩
    refine ⟨(x, i), List.mem_filter.2 ⟨List.mem_zipIdx_iff_getElem?.2 hx, ?_⟩, rfl⟩
    simpa using htest

theorem failures_ascending {α : Type} (test : α → Bool) (xs : List α) :
    (failures test xs).Pairwise (· < ·) := by
  have hplaces : (xs.zipIdx.map (·.2)).Pairwise (· < ·) := by
    rw [List.zipIdx_map_snd]
    exact List.pairwise_lt_range'
  exact hplaces.sublist (List.filter_sublist.map _)

theorem failures_congr {α : Type} {test test' : α → Bool} {xs : List α}
    (h : ∀ x ∈ xs, test x = test' x) : failures test xs = failures test' xs := by
  rw [failures, failures, List.filter_congr fun x hx => ?_]
  rw [h x.1 (List.fst_mem_of_mem_zipIdx hx)]

theorem isEmpty_failures {α : Type} {test : α → Bool} {xs : List α} :
    (failures test xs).isEmpty = true ↔ ∀ x ∈ xs, test x = true := by
  rw [List.isEmpty_iff, List.eq_nil_iff_forall_not_mem]
  constructor
  · intro h x hx
    obtain ⟨i, hi⟩ := List.getElem?_of_mem hx
    by_cases htest : test x = true
    · exact htest
    · exact absurd (mem_failures.2 ⟨x, hi, Bool.eq_false_iff.2 htest⟩) (h i)
  · intro h i hi
    obtain ⟨x, hx, htest⟩ := mem_failures.1 hi
    rw [h x (List.mem_of_getElem? hx)] at htest
    cases htest

/-- What is wrong with a request before any user is looked at. -/
def requestFlaw? (r : PrivilegeRequest) : Option Status :=
  match r.privilege.check r.scope with
  | .error fault => some fault.status
  | .ok () =>
    if r.scope = .object ∧ r.database = none then
      some (.explained .illegalParameter "object check without a database")
    else none

def checkPrivilege (a : Authority σ) (r : PrivilegeRequest) : Action σ PermissionInfo := do
  match requestFlaw? r with
  | some status => return .bare status
  | none =>
    match ← a.snapshot r.username with
    | none => return .bare (unknownUser r.username)
    | some (u, roles) =>
      let failed := failures (a.passes u roles r.username r.privilege r.grantOption) r.targets
      return {
        status := if failed.isEmpty then .success else .bare .noPermission
        user := some u
        roles
        failedPositions := if r.scope = .path then failed else [] }

def authenticationFailed : Status := .explained .wrongLoginPassword "Authentication failed."

def login (a : Authority σ) (r : LoginRequest) : Action σ PermissionInfo := do
  match ← a.snapshot r.username with
  | none => return .bare (unknownUser r.username)
  | some (u, roles) =>
    return if u.accepts r.username r.password then ⟨.success, some u, roles, []⟩
      else .bare authenticationFailed

def checkMembership (a : Authority σ) (r : MembershipRequest) : Action σ PermissionInfo := do
  match ← a.snapshot r.username with
  | none => return .bare (unknownUser r.username)
  | some (u, roles) =>
    let status :=
      if u.openId || u.hasRole r.rolename then .success
      else .explained .userNotHasRole
        ("user " ++ r.username ++ " does not have role " ++ r.rolename)
    return ⟨status, some u, roles, []⟩

def fetchTree (a : Authority σ) (r : PrivilegeRequest) : Action σ PatternTreeInfo := do
  match r.privilege.check .path with
  | .error fault => return .bare fault.status
  | .ok () =>
    match ← a.snapshot r.username with
    | none => return .bare (unknownUser r.username)
    | some (u, roles) =>
      let tree :=
        if a.isAdmin r.username || u.openId then .everything
        else PatternTree.ofHolders r.privilege u roles
      return ⟨.success, tree.toBytes, some u, roles⟩

/-- The authority as the remote side of a node. -/
def client (a : Authority σ) : Client σ where
  checkPrivilege := a.checkPrivilege
  login := a.login
  checkMembership := a.checkMembership
  fetchTree := a.fetchTree
  operate := a.operate
  query := a.query

end Warden.Authority
