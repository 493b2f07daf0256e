import Warden.Proofs.Node.Refusal

namespace Warden.Site

open Authority PrivilegeRequest

variable {config : Config} {s : Site Registry} {username : String} {p : Privilege}
  {target : Target} {option : Bool}

def due (config : Config) (registry : Registry) : Question → Reply
  | .check username p target option => .check <|
    match p.check target.scope with
    | .error fault => fault.status
    | .ok () =>
      if config.adminName = username then .success
      else statusOf p target (.ofBool
        ((inMemory config).grants registry (forTarget username p target option)))
  | .checkList username paths p option => .checkList <|
    match p.check .path with
    | .error fault => ⟨fault.status, []⟩
    | .ok () =>
      if config.adminName = username then ⟨.success, []⟩
      else resultOf p paths (.checked (refused config registry username p option paths))
  | .tree username p => .tree <| (p.check .path).map fun _ =>
    if config.adminName = username then .everything
    else (registry.users.get? username).elim .empty (granted config registry username · p)
  | .login username password => .login <|
    if (inMemory config).admits registry ⟨username, password⟩ then .success
    else authenticationFailed
  | .role username rolename => .role <|
    match registry.users.get? username with
    | none => .failed (unknownUser username).text
    | some u => if u.openId || u.hasRole rolename then .hasRole else .notGranted

theorem Follows.outlives (h : Follows config Eq s) : Follows config Outlives s :=
  h.mono fun u _ huv => huv ▸ .refl u

theorem Follows.cachedUser (h : Follows config Eq s) {u : User}
    (hu : s.node.cachedUser? username = some u) : s.remote.users.get? username = some u := by
  obtain ⟨v, hv, rfl⟩ := h.user hu
  exact hv

/-- What the cache decides is what the authority says. -/
theorem Follows.grants_of_verdict (h : Follows config Eq s)
    (hscope : p.check target.scope = .ok ()) (hadmin : config.adminName ≠ username)
    {passed : Bool} (hverdict : s.node.cachedVerdict username p target option = some passed) :
    (inMemory config).grants s.remote (forTarget username p target option) = passed := by
  cases passed with
  | false => exact h.outlives.grants_of_denial hscope hadmin hverdict
  | true =>
    obtain ⟨u, hu, hconsent⟩ := Option.bind_eq_some_iff.1 hverdict
    rw [grants_forTarget hscope hadmin (h.cachedUser hu), Registry.allows_iff]
    refine (Cache.of_verdict_true hconsent).imp_right ?_
    rintro ⟨rolename, hrole, r, hr, hallows⟩
    exact ⟨rolename, r, hrole, h.role hr, hallows⟩

theorem Follows.refused_of_failures (h : Follows config Eq s) (hscope : p.check .path = .ok ())
    (hadmin : config.adminName ≠ username) {paths : List Pattern} {failed : List Nat}
    (hfailed : s.node.cachedFailures username paths p option = some failed) :
    failed = refused config s.remote username p option paths := by
  obtain ⟨u, hu, hfailures⟩ := Option.bind_eq_some_iff.1 hfailed
  obtain ⟨hall, rfl⟩ := Cache.of_failures hfailures
  refine failures_congr fun path hpath => ?_
  cases hverdict : s.node.cache.verdict u p (.path path) option with
  | none => exact absurd hverdict (hall path hpath)
  | some passed =>
    have hcached : s.node.cachedVerdict username p (.path path) option = some passed := by
      rw [Node.cachedVerdict, hu]
      exact hverdict
    rw [h.grants_of_verdict hscope hadmin hcached]
    cases passed <;> rfl

theorem Follows.check_due (h : Follows config Eq s) (username : String) (p : Privilege)
    (target : Target) (option : Bool) :
    .check (s.check (inMemory config).client username p target option).1 =
      due config s.remote (.check username p target option) := by
  cases hscope : p.check target.scope with
  | error fault =>
    rw [check_misplaced hscope]
    simp only [due, hscope]
  | ok =>
    by_cases hadmin : config.adminName = username
    · rw [check_admin hscope (h.adminName.trans hadmin)]
      simp only [due, hscope, if_pos hadmin]
    · rw [check_eq hscope (h.adminName ▸ hadmin)]
      simp only [due, hscope, if_neg hadmin]
      cases hverdict : s.fresh.node.cachedVerdict username p target option with
      | none => rfl
      | some passed =>
        rw [← h.fresh.grants_of_verdict hscope hadmin hverdict]
        rfl

theorem Follows.checkList_due (h : Follows config Eq s) (username : String)
    (paths : List Pattern) (p : Privilege) (option : Bool) :
    .checkList (s.checkList (inMemory config).client username paths p option).1 =
      due config s.remote (.checkList username paths p option) := by
  cases hscope : p.check .path with
  | error fault =>
    rw [checkList_misplaced hscope]
    simp only [due, hscope]
  | ok =>
    by_cases hadmin : config.adminName = username
    · rw [checkList_admin hscope (h.adminName.trans hadmin)]
      simp only [due, hscope, if_pos hadmin]
    · rw [checkList_eq paths hscope (h.adminName ▸ hadmin)]
      simp only [due, hscope, if_neg hadmin]
      cases hfailed : s.fresh.node.cachedFailures username paths p option with
      | none => rfl
      | some failed =>
        rw [h.fresh.refused_of_failures hscope hadmin hfailed]
        rfl

theorem Follows.tree_due (h : Follows config Eq s) (username : String) (p : Privilege) :
    .tree (s.tree (inMemory config).client username p).1 =
      due config s.remote (.tree username p) := by
  by_cases hadmin : config.adminName = username
  · rw [tree_admin (h.adminName.trans hadmin)]
    simp only [due, if_pos hadmin]
  · simp only [tree, due, Node.isSuperUser, h.adminName, decide_eq_false hadmin, if_neg hadmin,
      Bool.false_eq_true, if_false, Site.authorizedTree]
    cases hscope : p.check .path with
    | error fault => rfl
    | ok =>
      dsimp only
      cases htree : s.fresh.node.cachedTree username p with
      | none =>
        cases hu : s.remote.users.get? username with
        | none => exact congrArg Reply.tree (ask_tree_unknown (s := s.fresh) hscope hu)
        | some u => exact congrArg Reply.tree (ask_tree (s := s.fresh) hscope hu)
      | some t =>
        obtain ⟨u, hu, htree⟩ := Option.bind_eq_some_iff.1 htree
        rw [h.fresh.granted_of_tree hadmin htree, ← remote_fresh s, h.fresh.cachedUser hu]
        rfl

theorem Follows.role_due (h : Follows config Eq s) (username rolename : String) :
    .role (s.checkRole (inMemory config).client username rolename).1 =
      due config s.remote (.role username rolename) := by
  simp only [Site.checkRole, due]
  cases hu : s.fresh.node.cachedUser? username with
  | none =>
    cases hv : s.remote.users.get? username with
    | none => exact congrArg Reply.role (ask_role_unknown (s := s.fresh) rolename hv)
    | some u => exact congrArg Reply.role (ask_role (s := s.fresh) rolename hv)
  | some u =>
    rw [← remote_fresh s, h.fresh.cachedUser hu]

/-- A node that keeps nothing but what is stored gives the reply that is due. -/
theorem Follows.reply_due (h : Follows config Eq s) (q : Question) :
    (s.reply (inMemory config).client q).1 = due config s.remote q := by
  cases q with
  | check username p target option => exact h.check_due username p target option
  | checkList username paths p option => exact h.checkList_due username paths p option
  | tree username p => exact h.tree_due username p
  | login username password => exact congrArg Reply.login (h.outlives.login_eq password)
  | role username rolename => exact h.role_due username rolename

/-- Whatever was asked and changed, as long as no role was removed: what a node keeps is stored, and
it replies as a node with an empty cache would. -/
theorem run_transparent {a : Authority Registry} {registry : Registry}
    (hopen : (openMemory config).run .empty = (.ok a, registry)) (events : List Event)
    (hdrop : ∀ rolename, .operate (.dropRole rolename) ∉ events) :
    let s := (cold config registry).run a.client events
    (∀ username u, s.node.cachedUser? username = some u →
      s.remote.users.get? username = some u) ∧
    (∀ rolename r, s.node.cache.roles.get? rolename = some r →
      s.remote.roles.get? rolename = some r) ∧
    ∀ n : Node, n.adminName = config.adminName → n.cache = .empty →
      ∀ q, (s.reply a.client q).1 = (reply a.client ⟨n, s.remote⟩ q).1 := by
  obtain ⟨rfl, hcold⟩ := follows_opened (R := Eq) hopen (rfl : config.adminName = _)
  intro s
  have hs : Follows config Eq s :=
    hcold.run (fun _ => rfl) events fun rolename hmem => absurd hmem (hdrop rolename)
  refine ⟨fun _ _ => hs.cachedUser, fun _ _ => hs.role, fun n hadmin hempty q => ?_⟩
  -- An empty cache follows any registry.
  have hn : Follows config Eq ⟨n, s.remote⟩ := by
    refine hs.forget (hadmin.trans hs.adminName.symm) (fun _ _ hu => ?_) fun _ _ hr => ?_
    · rw [Node.cachedUser?, hempty] at hu
      cases hu
    · rw [hempty] at hr
      cases hr
  rw [hs.reply_due, hn.reply_due]

/-- A role that a node has seen lets a user pass without a question; a new node would ask. -/
theorem transparent_member :
    let events : List Event := [.operate (.createUser "alice" "secret"),
      .operate (.createRole "reader"), .operate (.grantRole "reader" .useUdf .system false),
      .operate (.grantRoleToUser "reader" "alice"), .ask (.role "alice" "reader")]
    let s := (cold .standard (.founded .standard)).run (inMemory .standard).client events
    s.node.cachedVerdict "alice" .useUdf .system false = some true ∧
      (s.check (inMemory .standard).client "alice" .useUdf .system false).1 =
        (check (inMemory .standard).client (cold .standard s.remote) "alice" .useUdf .system
          false).1 := by
  intro events s
  have hopen : (openMemory .standard).run .empty =
      (.ok (inMemory .standard), .founded .standard) := rfl
  have hreply := (run_transparent hopen events (by simp [events])).2.2 (.ofConfig .standard) rfl rfl
    (.check "alice" .useUdf .system false)
  exact ⟨by decide +kernel, Reply.check.inj hreply⟩

end Warden.Site
