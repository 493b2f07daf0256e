import Warden.Proofs.Authority.Memory

namespace Warden

namespace PrivilegeRequest

variable (username : String) (p : Privilege) (target : Target) (paths : List Pattern) (option : Bool)

@[simp] theorem username_forTarget :
    (forTarget username p target option).username = username := by cases target <;> rfl

@[simp] theorem privilege_forTarget : (forTarget username p target option).privilege = p := by
  cases target <;> rfl

@[simp] theorem grantOption_forTarget :
    (forTarget username p target option).grantOption = option := by cases target <;> rfl

theorem scope_forTarget : (forTarget username p target option).scope = target.scope := by
  cases target <;> rfl

theorem targets_forTarget : (forTarget username p target option).targets = [target] := by
  cases target <;> rfl

theorem targets_forPaths : (forPaths username p paths option).targets = paths.map .path := rfl

end PrivilegeRequest

namespace Authority

open PrivilegeRequest

/-- A plain yes: a success without failed positions. -/
def grants {σ : Type} (a : Authority σ) (s : σ) (r : PrivilegeRequest) : Bool :=
  match ((a.checkPrivilege r).run s).1 with
  | .ok info => info.status.isSuccess && info.failedPositions.isEmpty
  | .error _ => false

def admits {σ : Type} (a : Authority σ) (s : σ) (r : LoginRequest) : Bool :=
  match ((a.login r).run s).1 with
  | .ok info => info.status.isSuccess
  | .error _ => false

def tree? {σ : Type} (a : Authority σ) (s : σ) (r : PrivilegeRequest) : Option PatternTree :=
  match ((a.fetchTree r).run s).1 with
  | .ok info => if info.status.isSuccess then (PatternTree.ofBytes info.tree).toOption else none
  | .error _ => none

variable {config : Config} {s : Registry} {username : String} {p : Privilege} {target : Target}
  {paths : List Pattern} {option : Bool}

theorem requestFlaw?_forTarget (hscope : p.check target.scope = .ok ()) :
    requestFlaw? (forTarget username p target option) = none := by
  apply requestFlaw?_eq_none
  · rw [privilege_forTarget, scope_forTarget, Privilege.scope_of_check hscope]
  · cases target with
    | system => nofun
    | path => nofun
    | object => exact fun _ => rfl

theorem requestFlaw?_forPaths (hscope : p.check .path = .ok ()) :
    requestFlaw? (forPaths username p paths option) = none :=
  requestFlaw?_eq_none (Privilege.scope_of_check hscope) nofun

theorem grants_unknown {r : PrivilegeRequest} (hflaw : requestFlaw? r = none)
    (hu : s.users.get? r.username = none) : (inMemory config).grants s r = false := by
  rw [grants, run_checkPrivilege_unknown hflaw hu]
  rfl

theorem grants_stored {r : PrivilegeRequest} {u : User} (hflaw : requestFlaw? r = none)
    (hu : s.users.get? r.username = some u) :
    (inMemory config).grants s r = true ↔ ∀ t ∈ r.targets,
      (decide (config.adminName = r.username) || s.allows u r.privilege t r.grantOption) = true := by
  rw [grants, run_checkPrivilege_stored hflaw hu, ← isEmpty_failures]
  dsimp only
  cases hfailed : (failures _ r.targets).isEmpty with
  | false => simp [Status.isSuccess, Status.bare]
  | true =>
    rw [List.isEmpty_iff] at hfailed
    simp [hfailed, Status.isSuccess, Status.success]

/-- A user who is not the administrator is granted what the user's entry and roles allow. -/
theorem grants_forTarget {u : User} (hscope : p.check target.scope = .ok ())
    (hadmin : config.adminName ≠ username) (hu : s.users.get? username = some u) :
    (inMemory config).grants s (forTarget username p target option) =
      s.allows u p target option := by
  have hflaw : requestFlaw? (forTarget username p target option) = none :=
    requestFlaw?_forTarget hscope
  have hgrants : (inMemory config).grants s (forTarget username p target option) = true ↔ _ :=
    grants_stored hflaw (by rwa [username_forTarget])
  simp only [targets_forTarget, List.forall_mem_singleton, username_forTarget, hadmin, decide_false,
    Bool.false_or, privilege_forTarget, grantOption_forTarget] at hgrants
  exact Bool.eq_iff_iff.2 hgrants

theorem grants_forTarget_unknown (hscope : p.check target.scope = .ok ())
    (hu : s.users.get? username = none) :
    (inMemory config).grants s (forTarget username p target option) = false :=
  grants_unknown (requestFlaw?_forTarget hscope) (by rwa [username_forTarget])

theorem grants_misplaced {fault : Fault} (hscope : p.check target.scope = .error fault) :
    (inMemory config).grants s (forTarget username p target option) = false := by
  have hflaw : requestFlaw? (forTarget username p target option) = some fault.status := by
    rw [requestFlaw?, privilege_forTarget, scope_forTarget, hscope]
  rw [grants, run_checkPrivilege_flawed hflaw]
  dsimp only [PermissionInfo.bare]
  rw [Privilege.isSuccess_of_check hscope, Bool.false_and]

/-- A list is granted when each of its paths is. -/
theorem grants_forPaths {u : User} (hscope : p.check .path = .ok ())
    (hu : s.users.get? username = some u) :
    (inMemory config).grants s (forPaths username p paths option) = true ↔
      ∀ path ∈ paths, (inMemory config).grants s (forTarget username p (.path path) option) = true := by
  rw [grants_stored (requestFlaw?_forPaths hscope) hu, targets_forPaths, List.forall_mem_map]
  refine forall₂_congr fun path _ => ?_
  rw [grants_stored (requestFlaw?_forTarget hscope) hu, targets_forTarget,
    List.forall_mem_singleton]
  rfl

theorem grants_forPaths_of_mem {path : Pattern} (hscope : p.check .path = .ok ())
    (hpath : path ∈ paths)
    (hrefused : (inMemory config).grants s (forTarget username p (.path path) option) = false) :
    (inMemory config).grants s (forPaths username p paths option) = false := by
  cases hu : s.users.get? username with
  | none => exact grants_unknown (requestFlaw?_forPaths hscope) hu
  | some u =>
    refine Bool.eq_false_iff.2 fun hgrants => ?_
    rw [(grants_forPaths hscope hu).1 hgrants path hpath] at hrefused
    cases hrefused

theorem admits_eq (username password : String) :
    (inMemory config).admits s ⟨username, password⟩ =
      (s.users.get? username).any (·.accepts username password) := by
  cases hu : s.users.get? username with
  | none =>
    rw [admits, run_login_unknown hu]
    rfl
  | some u =>
    rw [admits, run_login_stored hu, Option.any_some]
    cases u.accepts username password <;> rfl

end Authority

end Warden
