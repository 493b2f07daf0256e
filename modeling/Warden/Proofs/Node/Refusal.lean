import Warden.Proofs.Node.Decision

namespace Warden

/-- The same entry, with at least the same roles. -/
structure Outlives (u v : User) : Prop where
  entry : u = { v with roles := u.roles }
  hasRole : ∀ {rolename}, v.hasRole rolename = true → u.hasRole rolename = true

namespace Outlives

variable {u v : User}

theorem refl (u : User) : Outlives u u := ⟨rfl, id⟩

theorem removeRole (h : Outlives u v) (rolename : String) :
    Outlives u (v.removeRole rolename).1 where
  entry := h.entry
  hasRole hrole := by
    rw [User.hasRole_removeRole, Bool.and_eq_true] at hrole
    exact h.hasRole hrole.2

theorem openId (h : Outlives u v) : u.openId = v.openId := by rw [h.entry]

theorem grants (h : Outlives u v) : u.grants = v.grants := by rw [h.entry]

theorem allows (h : Outlives u v) (p : Privilege) (target : Target) (option : Bool) :
    u.allows p target option = v.allows p target option := by
  rw [User.allows, User.allows, h.openId, h.grants]

theorem accepts (h : Outlives u v) (username password : String) :
    u.accepts username password = v.accepts username password := by
  rw [h.entry]
  rfl

end Outlives

namespace Site

open Authority PrivilegeRequest

variable {config : Config} {s : Site Registry} {username : String} {p : Privilege}
  {target : Target} {option : Bool}

/-- A no from the cache is the registry's no. -/
theorem Follows.allows_of_denial (h : Follows config Outlives s)
    (hverdict : s.node.cachedVerdict username p target option = some false) :
    ∃ v, s.remote.users.get? username = some v ∧ s.remote.allows v p target option = false := by
  obtain ⟨u, hu, hdenial⟩ := Option.bind_eq_some_iff.1 hverdict
  obtain ⟨v, hv, houtlives⟩ := h.user hu
  obtain ⟨hown, hroles⟩ := Cache.of_verdict_false hdenial
  refine ⟨v, hv, Bool.eq_false_iff.2 fun hallows => ?_⟩
  rcases Registry.allows_iff.1 hallows with hv | ⟨rolename, r, hrole, hr, hv⟩
  · rw [← houtlives.allows, hown] at hv
    cases hv
  -- A stored role of the user is one that the cache lists, and as it is stored.
  · obtain ⟨r', hr', hno⟩ := hroles rolename (houtlives.hasRole hrole)
    obtain rfl : r' = r := Option.some.inj ((h.role hr').symm.trans hr)
    rw [hv] at hno
    cases hno

theorem Follows.grants_of_denial (h : Follows config Outlives s)
    (hscope : p.check target.scope = .ok ()) (hadmin : config.adminName ≠ username)
    (hverdict : s.node.cachedVerdict username p target option = some false) :
    (inMemory config).grants s.remote (forTarget username p target option) = false := by
  obtain ⟨v, hv, hno⟩ := h.allows_of_denial hverdict
  rw [grants_forTarget hscope hadmin hv]
  exact hno

theorem Follows.grants_of_check (h : Follows config Outlives s)
    (hcode : (s.check (inMemory config).client username p target option).1.code =
      .noPermission) :
    (inMemory config).grants s.remote (forTarget username p target option) = false := by
  cases hscope : p.check target.scope with
  | error fault => exact grants_misplaced hscope
  | ok =>
    by_cases hadmin : s.node.adminName = username
    · rw [check_admin hscope hadmin] at hcode
      cases hcode
    · rw [check_eq hscope hadmin, code_statusOf] at hcode
      rw [h.adminName] at hadmin
      cases hverdict : s.fresh.node.cachedVerdict username p target option with
      | none => simpa [hverdict] using hcode
      | some granted =>
        obtain rfl : granted = false := by simpa [hverdict] using hcode
        exact h.fresh.grants_of_denial hscope hadmin hverdict

/-- A position that a node reports is one of a path that the authority does not grant. -/
theorem Follows.grants_of_failedPosition (h : Follows config Outlives s) {paths : List Pattern}
    {i : Nat}
    (hi : i ∈ (s.checkList (inMemory config).client username paths p option).1.failedPositions) :
    ∃ path, paths[i]? = some path ∧
      (inMemory config).grants s.remote (forTarget username p (.path path) option) = false := by
  cases hscope : p.check .path with
  | error fault =>
    rw [checkList_misplaced hscope] at hi
    cases hi
  | ok =>
    by_cases hadmin : s.node.adminName = username
    · rw [checkList_admin hscope hadmin] at hi
      cases hi
    · rw [checkList_eq paths hscope hadmin, failedPositions_resultOf] at hi
      rw [h.adminName] at hadmin
      cases hfailed : s.fresh.node.cachedFailures username paths p option with
      | none =>
        rw [hfailed] at hi
        exact mem_failures.1 hi
      | some failed =>
        rw [hfailed, Option.getD_some] at hi
        obtain ⟨u, hu, hfailures⟩ := Option.bind_eq_some_iff.1 hfailed
        obtain ⟨hall, rfl⟩ := Cache.of_failures hfailures
        obtain ⟨path, hpath, hno⟩ := mem_failures.1 hi
        refine ⟨path, hpath, h.fresh.grants_of_denial hscope hadmin ?_⟩
        -- The list was decided, so this path was, and the verdict on it is a no.
        rw [Node.cachedVerdict, hu, Option.bind_some]
        cases hverdict : s.fresh.node.cache.verdict u p (.path path) option with
        | none => exact absurd hverdict (hall path (List.mem_of_getElem? hpath))
        | some granted => simpa [hverdict] using hno

theorem Follows.grants_of_checkList (h : Follows config Outlives s) {paths : List Pattern}
    (hcode : (s.checkList (inMemory config).client username paths p option).1.status.code =
      .noPermission) :
    (inMemory config).grants s.remote (forPaths username p paths option) = false := by
  cases hscope : p.check .path with
  | error fault =>
    rw [checkList_misplaced hscope] at hcode
    cases (Privilege.code_of_check hscope).symm.trans hcode
  | ok =>
    by_cases hadmin : s.node.adminName = username
    · rw [checkList_admin hscope hadmin] at hcode
      cases hcode
    · have hsome : (s.checkList (inMemory config).client username paths p
          option).1.failedPositions ≠ [] := by
        intro hnone
        rw [checkList_eq paths hscope hadmin, failedPositions_resultOf] at hnone
        rw [checkList_eq paths hscope hadmin, code_resultOf, hnone] at hcode
        cases hcode
      obtain ⟨i, hi⟩ := List.exists_mem_of_ne_nil _ hsome
      obtain ⟨path, hpath, hno⟩ := h.grants_of_failedPosition hi
      exact grants_forPaths_of_mem hscope (List.mem_of_getElem? hpath) hno

/-- A login is decided by the password alone, and a node knows the password of a cached user. -/
theorem Tracks.login_eq {superUser : String} (h : Tracks superUser config Outlives s)
    (password : String) :
    (s.login (inMemory config).client username password).1 =
      if (inMemory config).admits s.remote ⟨username, password⟩ then .success
      else authenticationFailed := by
  rw [Site.login, admits_eq]
  cases hu : s.fresh.node.cachedUser? username with
  | none => exact ask_login username password
  | some u =>
    obtain ⟨v, hv, houtlives⟩ := h.fresh.user hu
    rw [remote_fresh] at hv
    rw [hv, Option.any_some, ← houtlives.accepts]

theorem Follows.of_notGranted (h : Follows config Outlives s) {rolename : String}
    (hrole : (s.checkRole (inMemory config).client username rolename).1 = .notGranted) :
    ∃ v, s.remote.users.get? username = some v ∧ v.openId = false ∧
      v.hasRole rolename = false := by
  have hneither {u : User} (hno : (if u.openId || u.hasRole rolename then Membership.hasRole
      else .notGranted) = .notGranted) : u.openId = false ∧ u.hasRole rolename = false := by
    rw [← Bool.or_eq_false_iff]
    cases hhas : u.openId || u.hasRole rolename with
    | false => rfl
    | true => simp [hhas] at hno
  rw [Site.checkRole] at hrole
  cases hu : s.fresh.node.cachedUser? username with
  | none =>
    rw [hu] at hrole
    cases hv : s.remote.users.get? username with
    | none =>
      have hunknown := (ask_role_unknown (s := s.fresh) rolename hv).symm.trans hrole
      cases hunknown
    | some v => exact ⟨v, rfl, hneither ((ask_role (s := s.fresh) rolename hv).symm.trans hrole)⟩
  | some u =>
    rw [hu] at hrole
    obtain ⟨v, hv, houtlives⟩ := h.fresh.user hu
    obtain ⟨hopen, hno⟩ := hneither hrole
    refine ⟨v, hv, houtlives.openId ▸ hopen, Bool.eq_false_iff.2 fun hhas => ?_⟩
    rw [houtlives.hasRole hhas] at hno
    cases hno

theorem covers_granted {registry : Registry} {u v : User} {q : Pattern} (h : Outlives u v)
    (hq : (granted config registry username v p).covers q = true) :
    (granted config registry username u p).covers q = true := by
  rw [granted] at hq ⊢
  rw [h.openId]
  by_cases hall : (decide (config.adminName = username) || v.openId) = true
  · rw [if_pos hall] at hq ⊢
    exact hq
  · rw [if_neg hall, PatternTree.covers_ofHolders] at hq ⊢
    rw [h.grants]
    refine hq.imp_right ?_
    rintro ⟨r, hmem, hpattern⟩
    obtain ⟨rolename, hrole, hr⟩ := Registry.mem_rolesNamed.1 hmem
    exact ⟨r, Registry.mem_rolesNamed.2 ⟨rolename, h.hasRole hrole, hr⟩, hpattern⟩

/-- A node's tree covers what the authority's does. -/
theorem Follows.covers_of_tree? (h : Follows config Outlives s) {t : PatternTree} {q : Pattern}
    (ht : (inMemory config).tree? s.remote (forPaths username p [] false) = some t)
    (hq : t.covers q = true) :
    ∃ t', (s.tree (inMemory config).client username p).1 = .ok t' ∧ t'.covers q = true := by
  obtain ⟨v, hscope, hv, rfl⟩ := of_tree? ht
  by_cases hadmin : s.node.adminName = username
  · refine ⟨.everything, ?_, ?_⟩
    · rw [tree_admin hadmin, hscope]
      rfl
    · rw [granted, ← h.adminName, decide_eq_true hadmin] at hq
      exact hq
  · rw [tree, Node.isSuperUser, decide_eq_false hadmin, if_neg Bool.false_ne_true,
      Site.authorizedTree, hscope]
    rw [h.adminName] at hadmin
    dsimp only
    cases htree : s.fresh.node.cachedTree username p with
    | none => exact ⟨_, ask_tree hscope hv, hq⟩
    | some t =>
      obtain ⟨u, hu, htree⟩ := Option.bind_eq_some_iff.1 htree
      obtain ⟨v', hv', houtlives⟩ := h.fresh.user hu
      obtain rfl : v' = v := Option.some.inj (hv'.symm.trans hv)
      refine ⟨t, rfl, ?_⟩
      rw [h.fresh.granted_of_tree hadmin htree]
      exact covers_granted houtlives hq

/-- A node keeps up with a user, apart from roles that are gone, and whatever it says no to is
something that the authority says no to. -/
structure RefusesJustly (a : Authority Registry) (s : Site Registry) : Prop where
  user : ∀ {username u}, s.node.cachedUser? username = some u →
    ∃ v, s.remote.users.get? username = some v ∧ Outlives u v
  cachedRole : ∀ {rolename r}, s.node.cache.roles.get? rolename = some r →
    s.remote.roles.get? rolename = some r
  check : ∀ {username p target option},
    (s.check a.client username p target option).1.code = .noPermission →
      a.grants s.remote (forTarget username p target option) = false
  checkList : ∀ {username paths p option},
    (s.checkList a.client username paths p option).1.status.code = .noPermission →
      a.grants s.remote (forPaths username p paths option) = false
  failedPosition : ∀ {username paths p option i},
    i ∈ (s.checkList a.client username paths p option).1.failedPositions →
      ∃ path, paths[i]? = some path ∧
        a.grants s.remote (forTarget username p (.path path) option) = false
  login : ∀ {username password},
    (s.login a.client username password).1.code = .wrongLoginPassword →
      a.admits s.remote ⟨username, password⟩ = false
  role : ∀ {username rolename}, (s.checkRole a.client username rolename).1 = .notGranted →
    ∃ v, s.remote.users.get? username = some v ∧ v.openId = false ∧ v.hasRole rolename = false
  tree : ∀ {username p t q}, a.tree? s.remote (forPaths username p [] false) = some t →
    t.covers q = true →
      ∃ t', (s.tree a.client username p).1 = .ok t' ∧ t'.covers q = true

theorem Follows.refusesJustly (h : Follows config Outlives s) :
    RefusesJustly (inMemory config) s where
  user := h.user
  cachedRole := h.role
  check := h.grants_of_check
  checkList := h.grants_of_checkList
  failedPosition := h.grants_of_failedPosition
  login {username password} hcode := by
    rw [h.login_eq] at hcode
    split at hcode
    · cases hcode
    · exact Bool.eq_false_iff.2 ‹_›
  role := h.of_notGranted
  tree := h.covers_of_tree?

/-- After any run beside an authority that names the same administrator, a node refuses justly. -/
theorem run_refusesJustly {settings : Config} {a : Authority Registry} {registry : Registry}
    (hopen : (openMemory config).run .empty = (.ok a, registry))
    (hadmin : settings.adminName = config.adminName) (events : List Event) :
    RefusesJustly a ((cold settings registry).run a.client events) := by
  obtain ⟨rfl, hfollows⟩ := follows_opened (R := Outlives) hopen hadmin
  exact (hfollows.run Outlives.refl events fun _ _ _ _ h => h.removeRole _).refusesJustly

/-- After these events a node lists a user under a role that was removed and then made anew, with
some changes to the new role. -/
def lapse (changes : List Operation) : List Event :=
  [.operate (.createUser "user1" "password"), .operate (.createRole "role1"),
   .operate (.grantRoleToUser "role1" "user1"), .ask (.role "user1" "role1"),
   .operate (.dropRole "role1"), .operate (.createRole "role1")] ++ changes.map .operate ++
  [.operate (.grantRoleToUser "role1" "root"), .ask (.role "root" "role1")]

/-- The node decides by a role that the user has no more, and is right to refuse. -/
theorem refusesJustly_lapse :
    let s := (cold .standard (.founded .standard)).run (inMemory .standard).client (lapse [])
    s.node.cachedVerdict "user1" .useUdf .system false = some false ∧
      (inMemory .standard).grants s.remote (forTarget "user1" .useUdf .system false) = false := by
  intro s
  have hopen : (openMemory .standard).run .empty =
      (.ok (inMemory .standard), .founded .standard) := rfl
  have hjust : RefusesJustly (inMemory .standard) s := run_refusesJustly hopen rfl (lapse [])
  exact ⟨by decide +kernel, hjust.check (by decide +kernel)⟩

end Site

end Warden
