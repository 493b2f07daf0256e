import Mathlib.Data.List.Sort
import Warden.Proofs.Authority.Verdict
import Warden.Proofs.Node.Run
import Warden.Proofs.Path.Blob
import Warden.Proofs.Sorting

namespace Warden

namespace Cache

variable {c : Cache} {u : User} {p : Privilege} {target : Target} {option : Bool}

/-- A yes is due to a role that is known. -/
theorem of_rolesVerdict_true {rolenames : List String}
    (h : c.rolesVerdict p target option rolenames = some true) :
    ∃ rolename ∈ rolenames, ∃ r, c.roles.get? rolename = some r ∧
      r.allows p target option = true := by
  induction rolenames with
  | nil => cases h
  | cons rolename rolenames ih =>
    rw [rolesVerdict] at h
    cases hr : c.roles.get? rolename with
    | none =>
      rw [hr] at h
      cases h
    | some r =>
      rw [hr] at h
      dsimp only at h
      split at h
      · rename_i hallows
        exact ⟨rolename, List.mem_cons_self, r, hr, hallows⟩
      · obtain ⟨name, hname, hfound⟩ := ih h
        exact ⟨name, List.mem_cons_of_mem rolename hname, hfound⟩

/-- A no takes all the roles to be known. -/
theorem of_rolesVerdict_false {rolenames : List String}
    (h : c.rolesVerdict p target option rolenames = some false) :
    ∀ rolename ∈ rolenames, ∃ r, c.roles.get? rolename = some r ∧
      r.allows p target option = false := by
  induction rolenames with
  | nil => nofun
  | cons rolename rolenames ih =>
    rw [rolesVerdict] at h
    cases hr : c.roles.get? rolename with
    | none =>
      rw [hr] at h
      cases h
    | some r =>
      rw [hr] at h
      dsimp only at h
      split at h
      · cases h
      · rename_i hallows
        intro name hname
        rcases List.mem_cons.1 hname with rfl | hname
        · exact ⟨r, hr, Bool.eq_false_iff.2 hallows⟩
        · exact ih h name hname

theorem of_verdict_true (h : c.verdict u p target option = some true) :
    u.allows p target option = true ∨ ∃ rolename, u.hasRole rolename = true ∧
      ∃ r, c.roles.get? rolename = some r ∧ r.allows p target option = true := by
  rw [verdict] at h
  split at h
  · exact .inl ‹_›
  · obtain ⟨rolename, hmem, hfound⟩ := of_rolesVerdict_true h
    exact .inr ⟨rolename, KeyMap.mem_keys_iff.1 hmem, hfound⟩

theorem of_verdict_false (h : c.verdict u p target option = some false) :
    u.allows p target option = false ∧ ∀ rolename, u.hasRole rolename = true →
      ∃ r, c.roles.get? rolename = some r ∧ r.allows p target option = false := by
  rw [verdict] at h
  split at h
  · cases h
  · rename_i hallows
    refine ⟨Bool.eq_false_iff.2 hallows, fun rolename hrole => ?_⟩
    exact of_rolesVerdict_false h rolename (KeyMap.mem_keys_iff.2 hrole)

theorem of_failures_from {paths : List Pattern} {start : Nat} {failed : List Nat}
    (h : c.failures u p option start paths = some failed) :
    (∀ path ∈ paths, c.verdict u p (.path path) option ≠ none) ∧ failed =
      ((paths.zipIdx start).filter fun x =>
        !decide (c.verdict u p (.path x.1) option = some true)).map (·.2) := by
  induction paths generalizing start failed with
  | nil =>
    cases h
    exact ⟨nofun, rfl⟩
  | cons path paths ih =>
    rw [failures] at h
    cases hverdict : c.verdict u p (.path path) option with
    | none =>
      rw [hverdict] at h
      cases h
    | some passed =>
      rw [hverdict] at h
      obtain ⟨rest, hrest, rfl⟩ := Option.map_eq_some_iff.1 h
      obtain ⟨hall, rfl⟩ := ih hrest
      refine ⟨List.forall_mem_cons.2 ⟨by simp [hverdict], hall⟩, ?_⟩
      cases passed <;> simp [List.zipIdx_cons, hverdict]

/-- The paths that fail are those with a no, if there is a verdict for every path. -/
theorem of_failures {paths : List Pattern} {failed : List Nat}
    (h : c.failures u p option 0 paths = some failed) :
    (∀ path ∈ paths, c.verdict u p (.path path) option ≠ none) ∧ failed =
      Authority.failures (fun path => decide (c.verdict u p (.path path) option = some true))
        paths := of_failures_from h

theorem failures_eq_nil {paths : List Pattern} {start : Nat}
    (h : ∀ path ∈ paths, c.verdict u p (.path path) option = some true) :
    c.failures u p option start paths = some [] := by
  induction paths generalizing start with
  | nil => rfl
  | cons path paths ih =>
    obtain ⟨hverdict, hrest⟩ := List.forall_mem_cons.1 h
    rw [failures, hverdict]
    dsimp only
    rw [ih hrest]
    rfl

theorem of_knownRoles {registry : Registry} {rolenames : List String} {roles : List Role}
    (hstored : ∀ rolename r, c.roles.get? rolename = some r →
      registry.roles.get? rolename = some r)
    (h : c.knownRoles rolenames = some roles) : roles = registry.rolesNamed rolenames := by
  induction rolenames generalizing roles with
  | nil =>
    cases h
    rfl
  | cons rolename rolenames ih =>
    rw [knownRoles] at h
    cases hr : c.roles.get? rolename with
    | none => simp [hr] at h
    | some r =>
      cases hrest : c.knownRoles rolenames with
      | none => simp [hr, hrest] at h
      | some rest =>
        obtain rfl : r :: rest = roles := by simpa [hr, hrest] using h
        rw [ih hrest]
        simp only [Registry.rolesNamed, List.filterMap_cons, hstored rolename r hr]

end Cache

namespace Site

open Authority PrivilegeRequest

variable {config : Config} {s : Site Registry} {username : String} {p : Privilege} {option : Bool}

theorem outcomeOf_eq {info : PermissionInfo} (h : info.status.code = .success ∨
    info.status.code = .noPermission ∨ info.status.code = .userNotExist) :
    Node.outcomeOf info = .ofBool (info.status.isSuccess && info.failedPositions.isEmpty) := by
  rw [Node.outcomeOf, Status.isSuccess]
  rcases h with h | h | h
  · simp only [CheckOutcome.ofStatus, h, decide_true, Bool.true_and]
    rfl
  · simp only [CheckOutcome.ofStatus, h]
    rfl
  · simp only [CheckOutcome.ofStatus, h]
    rfl

theorem run_checkPrivilege_code (config : Config) (registry : Registry) {r : PrivilegeRequest}
    (hflaw : requestFlaw? r = none) :
    ∃ info, ((inMemory config).checkPrivilege r).run registry = (.ok info, registry) ∧
      (info.status.code = .success ∨ info.status.code = .noPermission ∨
        info.status.code = .userNotExist) := by
  cases hu : registry.users.get? r.username with
  | none => exact ⟨_, run_checkPrivilege_unknown hflaw hu, .inr (.inr rfl)⟩
  | some u =>
    refine ⟨_, run_checkPrivilege_stored hflaw hu, ?_⟩
    dsimp only
    split
    · exact .inl rfl
    · exact .inr (.inl rfl)

theorem ask_check {target : Target} (hscope : p.check target.scope = .ok ()) :
    (s.ask ((inMemory config).checkPrivilege (forTarget username p target option))
      Node.takeCheck).1 =
      .ofBool ((inMemory config).grants s.remote (forTarget username p target option)) := by
  have hflaw : requestFlaw? (forTarget username p target option) = none :=
    requestFlaw?_forTarget hscope
  obtain ⟨info, hrun, hcode⟩ := run_checkPrivilege_code config s.remote hflaw
  rw [ask, hrun, grants, hrun]
  exact outcomeOf_eq hcode

theorem ascending_failedBelow (total : Nat) (reported : List Nat) :
    (Node.failedBelow total reported).Pairwise (· < ·) :=
  Sorting.pairwise_lt_eraseReps (List.pairwise_mergeSort' (· ≤ ·) _)

theorem mem_failedBelow {total i : Nat} {reported : List Nat} :
    i ∈ Node.failedBelow total reported ↔ i < total ∧ i ∈ reported := by
  rw [Node.failedBelow, Sorting.mem_eraseReps, List.mem_mergeSort, List.mem_filter,
    decide_eq_true_eq, and_comm]

def refused (config : Config) (registry : Registry) (username : String) (p : Privilege)
    (option : Bool) (paths : List Pattern) : List Nat :=
  failures (fun path => (inMemory config).grants registry
    (forTarget username p (.path path) option)) paths

theorem refused_unknown {registry : Registry} {paths : List Pattern}
    (hscope : p.check .path = .ok ()) (hu : registry.users.get? username = none) :
    refused config registry username p option paths = List.range paths.length := by
  refine (failures_ascending _ _).eq_of_mem_iff List.pairwise_lt_range fun i => ?_
  rw [mem_failures, List.mem_range]
  constructor
  · rintro ⟨path, hpath, -⟩
    exact (List.getElem?_eq_some_iff.1 hpath).1
  · intro hi
    exact ⟨_, List.getElem?_eq_getElem hi, grants_forTarget_unknown hscope hu⟩

/-- The positions that are reported for a stored user are those of the paths one by one. -/
theorem failures_targets {registry : Registry} {paths : List Pattern} {u : User}
    (hscope : p.check .path = .ok ()) (hu : registry.users.get? username = some u) :
    failures (fun target => decide (config.adminName = username) ||
      registry.allows u p target option) (paths.map .path) =
      refused config registry username p option paths := by
  refine (failures_ascending _ _).eq_of_mem_iff (failures_ascending _ _) fun i => ?_
  rw [mem_failures, refused, mem_failures]
  -- A path that is asked about alone gets the verdict that it gets in the list.
  have hgrants (path : Pattern) : (inMemory config).grants registry
      (forTarget username p (.path path) option) =
        (decide (config.adminName = username) || registry.allows u p (.path path) option) := by
    have hstored : (inMemory config).grants registry (forTarget username p (.path path) option) =
        true ↔ _ := grants_stored (requestFlaw?_forTarget hscope) hu
    rw [targets_forTarget, List.forall_mem_singleton] at hstored
    exact Bool.eq_iff_iff.2 hstored
  simp only [List.getElem?_map, Option.map_eq_some_iff, hgrants]
  constructor
  · rintro ⟨_, ⟨path, hpath, rfl⟩, hrefused⟩
    exact ⟨path, hpath, hrefused⟩
  · rintro ⟨path, hpath, hrefused⟩
    exact ⟨_, ⟨path, hpath, rfl⟩, hrefused⟩

theorem failedBelow_refused (registry : Registry) (username : String) (p : Privilege)
    (option : Bool) (paths : List Pattern) :
    Node.failedBelow paths.length (refused config registry username p option paths) =
      refused config registry username p option paths := by
  refine (ascending_failedBelow _ _).eq_of_mem_iff (failures_ascending _ _) fun i => ?_
  rw [mem_failedBelow]
  refine and_iff_right_of_imp fun hi => ?_
  obtain ⟨path, hpath, -⟩ := mem_failures.1 hi
  exact (List.getElem?_eq_some_iff.1 hpath).1

theorem batchOf_eq {total : Nat} {info : PermissionInfo} {failed : List Nat}
    (hpositions : info.failedPositions = failed)
    (hstatus : info.status = if failed.isEmpty then .success else .bare .noPermission)
    (hbelow : Node.failedBelow total failed = failed) : Node.batchOf total info = .checked failed := by
  rw [Node.batchOf, hpositions, hbelow, hstatus]
  cases failed with
  | nil => rfl
  | cons i failed => rfl

/-- A refusal names its positions, unless the user is not known. -/
theorem ask_paths (paths : List Pattern) (hscope : p.check .path = .ok ()) :
    (s.ask ((inMemory config).checkPrivilege (forPaths username p paths option))
      (·.takeBatch paths.length ·)).1 =
      .checked (refused config s.remote username p option paths) := by
  have hflaw : requestFlaw? (forPaths username p paths option) = none :=
    requestFlaw?_forPaths hscope
  cases hu : s.remote.users.get? username with
  | none =>
    -- A refusal that names no position refuses all of them.
    have hnone : Node.failedBelow paths.length [] = [] :=
      List.eq_nil_iff_forall_not_mem.2 fun i hi => nomatch (mem_failedBelow.1 hi).2
    rw [ask, run_checkPrivilege_unknown hflaw hu, refused_unknown hscope hu]
    change Node.batchOf paths.length (.bare (unknownUser username)) = _
    simp only [Node.batchOf, PermissionInfo.bare, hnone]
    rfl
  | some u =>
    rw [ask, run_checkPrivilege_stored hflaw hu]
    refine batchOf_eq (failures_targets hscope hu) ?_ (failedBelow_refused _ _ _ _ _)
    rw [← failures_targets hscope hu]
    rfl

/-- What a stored user may see: everything, or what the user's grants and roles name. -/
def granted (config : Config) (registry : Registry) (username : String) (u : User)
    (p : Privilege) : PatternTree :=
  if decide (config.adminName = username) || u.openId then .everything
  else .ofHolders p u (registry.rolesNamed u.roles.keys)

theorem ofBytes_granted (config : Config) (registry : Registry) (username : String) (u : User)
    (p : Privilege) : PatternTree.ofBytes (granted config registry username u p).toBytes =
      .ok (granted config registry username u p) := by
  apply PatternTree.ofBytes_toBytes
  rw [granted]
  split
  · exact PatternTree.canonical_everything
  · exact PatternTree.canonical_ofHolders _ _ _

theorem run_fetchTree_granted {registry : Registry} {u : User} (hscope : p.check .path = .ok ())
    (hu : registry.users.get? username = some u) :
    ((inMemory config).fetchTree (forPaths username p [] false)).run registry =
      (.ok ⟨.success, (granted config registry username u p).toBytes, some u,
        registry.rolesNamed u.roles.keys⟩, registry) := run_fetchTree_stored hscope hu

/-- An authority answers with a tree about stored users only. -/
theorem of_tree? {registry : Registry} {t : PatternTree}
    (h : (inMemory config).tree? registry (forPaths username p [] false) = some t) :
    ∃ u, p.check .path = .ok () ∧ registry.users.get? username = some u ∧
      t = granted config registry username u p := by
  cases hscope : p.check .path with
  | error fault =>
    rw [tree?, run_fetchTree_misplaced hscope] at h
    dsimp only [PatternTreeInfo.bare] at h
    rw [Privilege.isSuccess_of_check hscope] at h
    cases h
  | ok =>
    cases hu : registry.users.get? username with
    | none =>
      rw [tree?, run_fetchTree_unknown hscope hu] at h
      cases h
    | some u =>
      refine ⟨u, rfl, rfl, ?_⟩
      rw [tree?, run_fetchTree_granted hscope hu] at h
      change (PatternTree.ofBytes _).toOption = some t at h
      rw [ofBytes_granted] at h
      exact (Option.some.inj h).symm

theorem ask_tree {u : User} (hscope : p.check .path = .ok ())
    (hu : s.remote.users.get? username = some u) :
    (s.ask ((inMemory config).fetchTree (forPaths username p [] false)) Node.takeTree).1 =
      .ok (granted config s.remote username u p) := by
  rw [ask, run_fetchTree_granted hscope hu]
  simp only [Node.takeTree, Status.success, ofBytes_granted]

theorem ask_tree_unknown (hscope : p.check .path = .ok ())
    (hu : s.remote.users.get? username = none) :
    (s.ask ((inMemory config).fetchTree (forPaths username p [] false)) Node.takeTree).1 =
      .ok .empty := by
  rw [ask, run_fetchTree_unknown hscope hu]
  rfl

theorem ask_login (username password : String) :
    (s.ask ((inMemory config).login ⟨username, password⟩) Node.takeLogin).1 =
      if (s.remote.users.get? username).any (·.accepts username password) then .success
      else authenticationFailed := by
  cases hu : s.remote.users.get? username with
  | none =>
    rw [ask, run_login_unknown hu]
    rfl
  | some u =>
    rw [ask, run_login_stored hu, Option.any_some]
    cases u.accepts username password <;> rfl

theorem ask_role {u : User} (rolename : String) (hu : s.remote.users.get? username = some u) :
    (s.ask ((inMemory config).checkMembership ⟨username, rolename⟩) Node.takeMembership).1 =
      if u.openId || u.hasRole rolename then .hasRole else .notGranted := by
  rw [ask, run_checkMembership_stored hu]
  cases u.openId || u.hasRole rolename <;> rfl

theorem ask_role_unknown (rolename : String) (hu : s.remote.users.get? username = none) :
    (s.ask ((inMemory config).checkMembership ⟨username, rolename⟩) Node.takeMembership).1 =
      .failed (unknownUser username).text := by
  rw [ask, run_checkMembership_unknown hu]
  rfl

theorem Follows.granted_of_tree {R : User → User → Prop} (h : Follows config R s)
    (hadmin : config.adminName ≠ username) {u : User} {t : PatternTree}
    (htree : s.node.cache.tree u p = some t) : t = granted config s.remote username u p := by
  rw [Cache.tree] at htree
  rw [granted, decide_eq_false hadmin, Bool.false_or]
  split at htree
  · rename_i hopen
    rw [if_pos hopen]
    exact (Option.some.inj htree).symm
  · rename_i hopen
    obtain ⟨roles, hroles, rfl⟩ := Option.map_eq_some_iff.1 htree
    rw [if_neg hopen, Cache.of_knownRoles (fun _ _ => h.role) hroles]

theorem remote_fresh {ρ : Type} (s : Site ρ) : s.fresh.remote = s.remote := rfl

theorem checkPrivilege_eq {target : Target} (hscope : p.check target.scope = .ok ()) :
    (s.checkPrivilege (inMemory config).client username p target option).1 =
      .ofBool ((s.fresh.node.cachedVerdict username p target option).getD
        ((inMemory config).grants s.remote (forTarget username p target option))) := by
  rw [checkPrivilege]
  cases hverdict : s.fresh.node.cachedVerdict username p target option with
  | none => exact ask_check hscope
  | some granted => rfl

theorem checkPaths_eq (paths : List Pattern) (hscope : p.check .path = .ok ()) :
    (s.checkPaths (inMemory config).client username paths p option).1 =
      .checked ((s.fresh.node.cachedFailures username paths p option).getD
        (refused config s.remote username p option paths)) := by
  cases paths with
  | nil =>
    rw [Node.cachedFailures]
    cases s.fresh.node.cachedUser? username <;> rfl
  | cons path paths =>
    rw [checkPaths, List.isEmpty_cons]
    cases hfailed : s.fresh.node.cachedFailures username (path :: paths) p option with
    | none =>
      simp only [Bool.false_eq_true, if_false, hfailed]
      exact ask_paths (path :: paths) hscope
    | some failed =>
      simp only [Bool.false_eq_true, if_false, hfailed]
      rfl

/-- A privilege asked for outside its scope is turned away. -/
theorem check_misplaced {target : Target} {fault : Fault}
    (hscope : p.check target.scope = .error fault) :
    (s.check (inMemory config).client username p target option).1 = fault.status := by
  rw [check, hscope]

theorem checkList_misplaced {paths : List Pattern} {fault : Fault}
    (hscope : p.check .path = .error fault) :
    (s.checkList (inMemory config).client username paths p option).1 = ⟨fault.status, []⟩ := by
  rw [checkList, hscope]

/-- The administrator passes without a question. -/
theorem check_admin {target : Target} (hscope : p.check target.scope = .ok ())
    (hadmin : s.node.adminName = username) :
    (s.check (inMemory config).client username p target option).1 = .success := by
  simp only [check, hscope, Node.isSuperUser, hadmin, decide_true, if_true]

theorem checkList_admin {paths : List Pattern} (hscope : p.check .path = .ok ())
    (hadmin : s.node.adminName = username) :
    (s.checkList (inMemory config).client username paths p option).1 = ⟨.success, []⟩ := by
  simp only [checkList, hscope, Node.isSuperUser, hadmin, decide_true, if_true]

theorem tree_admin (hadmin : s.node.adminName = username) :
    (s.tree (inMemory config).client username p).1 = (p.check .path).map fun _ => .everything := by
  simp only [tree, Node.isSuperUser, hadmin, decide_true, if_true]

theorem check_eq {target : Target} (hscope : p.check target.scope = .ok ())
    (hadmin : s.node.adminName ≠ username) :
    (s.check (inMemory config).client username p target option).1 =
      statusOf p target (.ofBool ((s.fresh.node.cachedVerdict username p target option).getD
        ((inMemory config).grants s.remote (forTarget username p target option)))) := by
  rw [check, hscope, ← checkPrivilege_eq hscope]
  simp only [Node.isSuperUser, hadmin, decide_false, Bool.false_eq_true, if_false]

theorem checkList_eq (paths : List Pattern) (hscope : p.check .path = .ok ())
    (hadmin : s.node.adminName ≠ username) :
    (s.checkList (inMemory config).client username paths p option).1 =
      resultOf p paths (.checked ((s.fresh.node.cachedFailures username paths p option).getD
        (refused config s.remote username p option paths))) := by
  rw [checkList, hscope, ← checkPaths_eq paths hscope]
  simp only [Node.isSuperUser, hadmin, decide_false, Bool.false_eq_true, if_false]

end Site

end Warden
