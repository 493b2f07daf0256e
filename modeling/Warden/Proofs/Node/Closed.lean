import Warden.Proofs.Node.Decision

namespace Warden

theorem CheckOutcome.ofStatus_eq_granted {status : Status} :
    ofStatus status = .granted ↔ status.code = .success := by
  rw [ofStatus]
  cases status.code <;> simp

theorem CheckOutcome.ofBool_eq_granted {granted : Bool} :
    ofBool granted = .granted ↔ granted = true := by
  cases granted <;> decide

theorem Status.isSuccess_iff {status : Status} : status.isSuccess = true ↔ status.code = .success :=
  decide_eq_true_iff

namespace Node

variable {n : Node} {username : String} {p : Privilege} {target : Target} {option : Bool}

theorem outcomeOf_eq_granted {info : PermissionInfo} :
    outcomeOf info = .granted ↔ info.status.code = .success ∧ info.failedPositions = [] := by
  rw [outcomeOf, ← CheckOutcome.ofStatus_eq_granted]
  cases CheckOutcome.ofStatus info.status with
  | granted => cases info.failedPositions <;> simp
  | denied => simp
  | failed message => simp

theorem failedBelow_eq_nil {total : Nat} {reported : List Nat} :
    failedBelow total reported = [] ↔ ∀ i ∈ reported, total ≤ i := by
  rw [List.eq_nil_iff_forall_not_mem]
  constructor
  · intro h i hi
    by_contra hlt
    exact h i (Site.mem_failedBelow.2 ⟨by omega, hi⟩)
  · intro h i hi
    obtain ⟨hlt, hreported⟩ := Site.mem_failedBelow.1 hi
    have hle : total ≤ i := h i hreported
    omega

/-- A list passes as a whole only with a success; a refusal without positions refuses all of it. -/
theorem batchOf_eq_nil {total : Nat} {info : PermissionInfo} (htotal : 0 < total) :
    batchOf total info = .checked [] ↔
      info.status.code = .success ∧ ∀ i ∈ info.failedPositions, total ≤ i := by
  rw [batchOf, ← failedBelow_eq_nil, ← CheckOutcome.ofStatus_eq_granted]
  cases CheckOutcome.ofStatus info.status with
  | granted => simp
  | failed message => simp
  | denied =>
    have hrange : List.range total ≠ [] := by
      rw [Ne, List.range_eq_nil]
      omega
    cases failedBelow total info.failedPositions <;> simp [hrange]

theorem vouches_of_cachedVerdict (h : n.cachedVerdict username p target option = some true) :
    ∃ u, n.cachedUser? username = some u ∧ (u.allows p target option = true ∨
      ∃ rolename, u.hasRole rolename = true ∧
        ∃ r, n.cache.roles.get? rolename = some r ∧ r.allows p target option = true) := by
  obtain ⟨u, hu, hverdict⟩ := Option.bind_eq_some_iff.1 h
  exact ⟨u, hu, Cache.of_verdict_true hverdict⟩

theorem takeInfo_success {info : PermissionInfo} (h : info.status.code = .success) :
    n.takeInfo info = n.remember info.user info.roles :=
  if_pos (Status.isSuccess_iff.2 h)

theorem takeInfo_other {info : PermissionInfo} (h : info.status.code ≠ .success) :
    n.takeInfo info = n := by
  rw [takeInfo]
  exact if_neg (mt Status.isSuccess_iff.1 h)

theorem takeLogin_success {info : PermissionInfo} (h : info.status.code = .success) :
    n.takeLogin (.ok info) = (.success, n.remember info.user info.roles) := by
  simp only [takeLogin, h, takeInfo_success h]

theorem takeLogin_other {info : PermissionInfo} (h : info.status.code ≠ .success) :
    (n.takeLogin (.ok info)).1.code ≠ .success ∧ (n.takeLogin (.ok info)).2 = n := by
  have hfailed : Authority.authenticationFailed.code ≠ .success := by decide
  rw [takeLogin]
  cases hcode : info.status.code with
  | success => exact absurd hcode h
  | userNotExist => exact ⟨hfailed, rfl⟩
  | wrongLoginPassword => exact ⟨hfailed, rfl⟩
  | _ => exact ⟨h, rfl⟩

theorem takeMembership_success {info : PermissionInfo} (h : info.status.code = .success) :
    n.takeMembership (.ok info) = (.hasRole, n.remember info.user info.roles) := by
  simp only [takeMembership, h]

theorem takeMembership_refusal {info : PermissionInfo} (h : info.status.code = .userNotHasRole) :
    n.takeMembership (.ok info) = (.notGranted, n.remember info.user info.roles) := by
  simp only [takeMembership, h]

theorem takeMembership_other {info : PermissionInfo} (h : info.status.code ≠ .success)
    (hrole : info.status.code ≠ .userNotHasRole) :
    n.takeMembership (.ok info) = (.failed info.status.text, n) := by
  rw [takeMembership]
  cases hcode : info.status.code with
  | success => exact absurd hcode h
  | userNotHasRole => exact absurd hcode hrole
  | _ => rfl

theorem takeTree_success {info : PatternTreeInfo} {t : PatternTree}
    (h : info.status.code = .success) (htree : PatternTree.ofBytes info.tree = .ok t) :
    n.takeTree (.ok info) = (.ok t, n.remember info.user info.roles) := by
  simp only [takeTree, h, htree]

theorem takeTree_unreadable {info : PatternTreeInfo} {fault : Fault}
    (h : info.status.code = .success) (htree : PatternTree.ofBytes info.tree = .error fault) :
    n.takeTree (.ok info) = (.error fault, n) := by
  simp only [takeTree, h, htree]

/-- Without a success there is no tree, or an empty one. -/
theorem takeTree_other {info : PatternTreeInfo} (h : info.status.code ≠ .success) :
    (∀ t, (n.takeTree (.ok info)).1 = .ok t → t.patterns = []) ∧
      (n.takeTree (.ok info)).2 = n := by
  have hempty (t : PatternTree) (ht : Except.ok (ε := Fault) .empty = .ok t) :
      t.patterns = [] := by
    cases ht
    rfl
  rw [takeTree]
  cases hcode : info.status.code with
  | success => exact absurd hcode h
  | userNotExist => exact ⟨hempty, rfl⟩
  | noPermission => exact ⟨hempty, rfl⟩
  | _ =>
    refine ⟨fun t ht => ?_, rfl⟩
    cases ht

theorem takeLogin_passes {info : PermissionInfo} :
    (n.takeLogin (.ok info)).1.code = .success ↔ info.status.code = .success := by
  by_cases h : info.status.code = .success
  · rw [takeLogin_success h]
    exact iff_of_true rfl h
  · exact iff_of_false (takeLogin_other h).1 h

theorem takeMembership_passes {info : PermissionInfo} :
    (n.takeMembership (.ok info)).1 = .hasRole ↔ info.status.code = .success := by
  by_cases h : info.status.code = .success
  · rw [takeMembership_success h]
    exact iff_of_true rfl h
  · refine iff_of_false ?_ h
    by_cases hrole : info.status.code = .userNotHasRole
    · rw [takeMembership_refusal hrole]
      nofun
    · rw [takeMembership_other h hrole]
      nofun

theorem takeTree_passes {info : PatternTreeInfo} {t : PatternTree} (hpatterns : t.patterns ≠ []) :
    (n.takeTree (.ok info)).1 = .ok t ↔
      info.status.code = .success ∧ PatternTree.ofBytes info.tree = .ok t := by
  by_cases h : info.status.code = .success
  · rw [and_iff_right h]
    cases hbytes : PatternTree.ofBytes info.tree with
    | error fault => rw [takeTree_unreadable h hbytes]
    | ok read => rw [takeTree_success h hbytes]
  · refine iff_of_false (fun ht => ?_) fun ht => h ht.1
    exact hpatterns ((takeTree_other h).1 t ht)

theorem takeOperation_passes {o : Operation} {status : Status} :
    (n.takeOperation o (.ok status)).1.code = .success ↔ status.code = .success := by
  rw [takeOperation]
  split <;> rfl

theorem takeQuery_eq_ok {response : QueryResponse} {names : List String} :
    takeQuery (.ok response) = .ok names ↔
      response.status.code = .success ∧ response.names = names := by
  rw [takeQuery, ← Status.isSuccess_iff]
  cases response.status.isSuccess <;> simp

end Node

namespace Site

variable {ρ : Type}

def Hears {α : Type} (s : Site ρ) (request : Action ρ α) (counts : α → Prop) : Prop :=
  ∃ info, (request.run s.remote).1 = .ok info ∧ counts info

/-- How a call ends that looks at the cache, puts one request if this does not decide, and keeps the
user and the roles of an answer that counts. -/
structure Settles {α : Type} (s : Site ρ) (decided : Prop) (request : Action ρ α)
    (counts : α → Prop) (user : α → Option User) (roles : α → List Role) (s' : Site ρ) : Prop where
  unasked : decided → s' = s
  asked : ¬decided → s'.remote = (request.run s.remote).2
  failed : ¬decided → ∀ {fault}, (request.run s.remote).1 = .error fault → s'.node = s.node
  ignored : ¬decided → ∀ {info}, (request.run s.remote).1 = .ok info → ¬counts info →
    s'.node = s.node
  refused : s.node.acceptCache = false → s'.node = s.node
  kept : ¬decided → s.node.acceptCache = true →
    ∀ {info}, (request.run s.remote).1 = .ok info → counts info →
      let cache := (roles info).foldl Cache.putRole s.node.cache
      s'.node = { s.node with cache := (user info).elim cache cache.putUser }

section Settles

variable {α β : Type} {s : Site ρ} {decided : Prop} {request : Action ρ α} {counts : α → Prop}
  {user : α → Option User} {roles : α → List Role}

theorem settles_unasked (h : decided) : Settles s decided request counts user roles s where
  unasked _ := rfl
  asked hnot := absurd h hnot
  failed hnot := absurd h hnot
  ignored hnot := absurd h hnot
  refused _ := rfl
  kept hnot := absurd h hnot

theorem settles_ask {take : Node → Except Fault α → β × Node} (h : ¬decided)
    (hfailed : ∀ n fault, (take n (.error fault)).2 = n)
    (hignored : ∀ n info, ¬counts info → (take n (.ok info)).2 = n)
    (hkept : ∀ n info, counts info →
      (take n (.ok info)).2 = n.remember (user info) (roles info)) :
    Settles s decided request counts user roles (s.ask request take).2 := by
  have hnode : (s.ask request take).2.node = (take s.node (request.run s.remote).1).2 := rfl
  constructor
  · exact fun hdecided => absurd hdecided h
  · exact fun _ => rfl
  · intro _ fault hanswer
    rw [hnode, hanswer, hfailed]
  · intro _ info hanswer hcounts
    rw [hnode, hanswer, hignored _ _ hcounts]
  · intro haccept
    rw [hnode]
    cases (request.run s.remote).1 with
    | error fault => exact hfailed _ _
    | ok info =>
      by_cases hcounts : counts info
      · rw [hkept _ _ hcounts, Node.remember, haccept]
        rfl
      · exact hignored _ _ hcounts
  · intro _ haccept info hanswer hcounts
    rw [hnode, hanswer, hkept _ _ hcounts, Node.remember]
    exact if_pos haccept

theorem settles_takeInfo {request : Action ρ PermissionInfo}
    {take : Node → Except Fault PermissionInfo → β × Node} (h : ¬decided)
    (hfailed : ∀ n fault, (take n (.error fault)).2 = n)
    (htake : ∀ n info, (take n (.ok info)).2 = n.takeInfo info) :
    Settles s decided request (·.status.code = .success) PermissionInfo.user PermissionInfo.roles
      (s.ask request take).2 := by
  refine settles_ask h hfailed (fun n info hcode => ?_) fun n info hcode => ?_
  · rw [htake, Node.takeInfo_other hcode]
  · rw [htake, Node.takeInfo_success hcode]

/-- A reply is good only if there is an answer, and a good one. -/
theorem ask_iff {take : Node → Except Fault α → β × Node} (good : β → Prop)
    (hfailed : ∀ fault, ¬good (take s.node (.error fault)).1)
    (hanswered : ∀ info, good (take s.node (.ok info)).1 ↔ counts info) :
    good (s.ask request take).1 ↔ s.Hears request counts := by
  rw [fst_ask, Hears]
  cases (request.run s.remote).1 with
  | error fault => simpa using hfailed fault
  | ok info => simpa using hanswered info

end Settles

variable (c : Client ρ) (s : Site ρ) (username : String) (p : Privilege)

theorem checkPrivilege_granted_iff (target : Target) (option : Bool) :
    (s.checkPrivilege c username p target option).1 = .granted ↔
      s.fresh.node.cachedVerdict username p target option = some true ∨
      s.fresh.node.cachedVerdict username p target option = none ∧
        s.Hears (c.checkPrivilege (.forTarget username p target option)) fun info =>
          info.status.code = .success ∧ info.failedPositions = [] := by
  rw [checkPrivilege]
  cases s.fresh.node.cachedVerdict username p target option with
  | some granted => simpa using CheckOutcome.ofBool_eq_granted
  | none =>
    simp only [reduceCtorEq, false_or, true_and]
    exact ask_iff (· = CheckOutcome.granted) (fun _ h => by cases h) fun info =>
      Node.outcomeOf_eq_granted

theorem checkPaths_granted_iff (paths : List Pattern) (option : Bool) :
    (s.checkPaths c username paths p option).1 = .checked [] ↔ paths = [] ∨
      s.fresh.node.cachedFailures username paths p option = some [] ∨
      s.fresh.node.cachedFailures username paths p option = none ∧
        s.Hears (c.checkPrivilege (.forPaths username p paths option)) fun info =>
          info.status.code = .success ∧ ∀ i ∈ info.failedPositions, paths.length ≤ i := by
  by_cases hpaths : paths = []
  · subst hpaths
    exact iff_of_true rfl (.inl rfl)
  · have htotal : 0 < paths.length := List.length_pos_iff.2 hpaths
    rw [checkPaths, if_neg (mt List.isEmpty_iff.1 hpaths), or_iff_right hpaths]
    dsimp only
    cases s.fresh.node.cachedFailures username paths p option with
    | some failed => simp
    | none =>
      simp only [reduceCtorEq, false_or, true_and]
      exact ask_iff (· = BatchOutcome.checked []) (fun _ h => by cases h) fun info =>
        Node.batchOf_eq_nil htotal

theorem of_authorizedTree {t : PatternTree} (ht : (s.authorizedTree c username p).1 = .ok t)
    (hpatterns : t.patterns ≠ []) :
    s.fresh.node.cachedTree username p = some t ∨
      s.fresh.node.cachedTree username p = none ∧
        s.Hears (c.fetchTree (.forPaths username p [] false)) fun info =>
          info.status.code = .success ∧ PatternTree.ofBytes info.tree = .ok t := by
  rw [authorizedTree] at ht
  cases hscope : p.check .path with
  | error fault =>
    rw [hscope] at ht
    cases ht
  | ok =>
    rw [hscope] at ht
    dsimp only at ht
    cases htree : s.fresh.node.cachedTree username p with
    | some cached =>
      rw [htree] at ht
      exact .inl (congrArg some (Except.ok.inj ht))
    | none =>
      rw [htree] at ht
      have hanswer : (s.fresh.ask (c.fetchTree (.forPaths username p [] false))
          Node.takeTree).1 = .ok t ↔ _ := ask_iff (· = Except.ok t) (fun _ h => by cases h)
        fun info => Node.takeTree_passes hpatterns
      exact .inr ⟨rfl, hanswer.1 ht⟩

theorem login_success_iff (password : String) :
    (s.login c username password).1.code = .success ↔
      (∃ u, s.fresh.node.cachedUser? username = some u ∧ u.accepts username password = true) ∨
        s.fresh.node.cachedUser? username = none ∧
          s.Hears (c.login ⟨username, password⟩) (·.status.code = .success) := by
  rw [login]
  cases s.fresh.node.cachedUser? username with
  | some u =>
    have hfailed : Authority.authenticationFailed.code ≠ .success := by decide
    have hpassed : Status.success.code = .success := rfl
    cases haccepts : u.accepts username password <;> simp [haccepts, hfailed, hpassed]
  | none =>
    simp only [reduceCtorEq, false_and, exists_false, false_or, true_and]
    exact ask_iff (fun status : Status => status.code = .success) (fun _ h => by cases h)
      fun info => Node.takeLogin_passes

theorem checkRole_hasRole_iff (rolename : String) :
    (s.checkRole c username rolename).1 = .hasRole ↔
      (∃ u, s.fresh.node.cachedUser? username = some u ∧
        (u.openId = true ∨ u.hasRole rolename = true)) ∨
        s.fresh.node.cachedUser? username = none ∧
          s.Hears (c.checkMembership ⟨username, rolename⟩) (·.status.code = .success) := by
  rw [checkRole]
  cases s.fresh.node.cachedUser? username with
  | some u =>
    cases hopen : u.openId <;> cases hrole : u.hasRole rolename <;> simp [hopen, hrole]
  | none =>
    simp only [reduceCtorEq, false_and, exists_false, false_or, true_and]
    exact ask_iff (· = Membership.hasRole) (fun _ h => by cases h) fun info =>
      Node.takeMembership_passes

theorem settles_checkPrivilege (target : Target) (option : Bool) :
    Settles s.fresh (s.fresh.node.cachedVerdict username p target option ≠ none)
      (c.checkPrivilege (.forTarget username p target option)) (·.status.code = .success)
      PermissionInfo.user PermissionInfo.roles (s.checkPrivilege c username p target option).2 := by
  rw [checkPrivilege]
  cases s.fresh.node.cachedVerdict username p target option with
  | some granted => exact settles_unasked (Option.some_ne_none granted)
  | none => exact settles_takeInfo (fun h => h rfl) (fun _ _ => rfl) fun _ _ => rfl

theorem settles_checkPaths {paths : List Pattern} (option : Bool) (hpaths : paths ≠ []) :
    Settles s.fresh (s.fresh.node.cachedFailures username paths p option ≠ none)
      (c.checkPrivilege (.forPaths username p paths option)) (·.status.code = .success)
      PermissionInfo.user PermissionInfo.roles (s.checkPaths c username paths p option).2 := by
  rw [checkPaths, if_neg (mt List.isEmpty_iff.1 hpaths)]
  dsimp only
  cases s.fresh.node.cachedFailures username paths p option with
  | some failed => exact settles_unasked (Option.some_ne_none failed)
  | none => exact settles_takeInfo (fun h => h rfl) (fun _ _ => rfl) fun _ _ => rfl

theorem settles_authorizedTree (hscope : p.check .path = .ok ()) :
    Settles s.fresh (s.fresh.node.cachedTree username p ≠ none)
      (c.fetchTree (.forPaths username p [] false))
      (fun info => info.status.code = .success ∧ ∃ t, PatternTree.ofBytes info.tree = .ok t)
      PatternTreeInfo.user PatternTreeInfo.roles (s.authorizedTree c username p).2 := by
  rw [authorizedTree, hscope]
  dsimp only
  cases s.fresh.node.cachedTree username p with
  | some t => exact settles_unasked (Option.some_ne_none t)
  | none =>
    refine settles_ask (fun h => h rfl) (fun _ _ => rfl) (fun n info h => ?_) fun n info h => ?_
    · by_cases hcode : info.status.code = .success
      · cases hbytes : PatternTree.ofBytes info.tree with
        | error fault => rw [Node.takeTree_unreadable hcode hbytes]
        | ok t => exact absurd ⟨hcode, t, hbytes⟩ h
      · exact (Node.takeTree_other hcode).2
    · obtain ⟨hcode, t, hbytes⟩ := h
      rw [Node.takeTree_success hcode hbytes]

theorem settles_login (password : String) :
    Settles s.fresh (s.fresh.node.cachedUser? username ≠ none)
      (c.login ⟨username, password⟩) (·.status.code = .success)
      PermissionInfo.user PermissionInfo.roles (s.login c username password).2 := by
  rw [login]
  cases s.fresh.node.cachedUser? username with
  | some u => exact settles_unasked (Option.some_ne_none u)
  | none =>
    refine settles_ask (fun h => h rfl) (fun _ _ => rfl) (fun n info h => ?_) fun n info h => ?_
    · exact (Node.takeLogin_other h).2
    · rw [Node.takeLogin_success h]

theorem settles_checkRole (rolename : String) :
    Settles s.fresh (s.fresh.node.cachedUser? username ≠ none)
      (c.checkMembership ⟨username, rolename⟩)
      (fun info => info.status.code = .success ∨ info.status.code = .userNotHasRole)
      PermissionInfo.user PermissionInfo.roles (s.checkRole c username rolename).2 := by
  rw [checkRole]
  cases s.fresh.node.cachedUser? username with
  | some u => exact settles_unasked (Option.some_ne_none u)
  | none =>
    refine settles_ask (fun h => h rfl) (fun _ _ => rfl) (fun n info h => ?_) fun n info h => ?_
    · rw [Node.takeMembership_other (fun hcode => h (.inl hcode)) fun hcode => h (.inr hcode)]
    · rcases h with h | h
      · rw [Node.takeMembership_success h]
      · rw [Node.takeMembership_refusal h]

/-- A change that the remote side says it made is forgotten here; nothing else happens. -/
theorem operate_snd (o : Operation) :
    (s.operate c o).2 = ⟨if (s.operate c o).1.code = .success
      then (s.node.invalidate o.affected.1 o.affected.2).2 else s.node,
      ((c.operate o).run s.remote).2⟩ := by
  have hsite : s.operate c o = s.ask (c.operate o) (·.takeOperation o ·) := rfl
  rw [hsite, ask]
  cases (c.operate o).run s.remote with
  | mk answer remote =>
    cases answer with
    | error fault => rfl
    | ok status =>
      simp only [Node.takeOperation, Status.isSuccess_iff]
      split <;> simp [*]

/-- Who passes at a site, whatever its remote side says. -/
structure Guarded : Prop where
  check : ∀ username p target option,
    (s.checkPrivilege c username p target option).1 = .granted ↔
      s.fresh.node.cachedVerdict username p target option = some true ∨
      s.fresh.node.cachedVerdict username p target option = none ∧
        s.Hears (c.checkPrivilege (.forTarget username p target option)) fun info =>
          info.status.code = .success ∧ info.failedPositions = []
  verdict : ∀ {username p target option},
    s.fresh.node.cachedVerdict username p target option = some true →
      ∃ u, s.fresh.node.cachedUser? username = some u ∧ (u.allows p target option = true ∨
        ∃ rolename, u.hasRole rolename = true ∧
          ∃ r, s.fresh.node.cache.roles.get? rolename = some r ∧ r.allows p target option = true)
  paths : ∀ username paths p option,
    (s.checkPaths c username paths p option).1 = .checked [] ↔ paths = [] ∨
      s.fresh.node.cachedFailures username paths p option = some [] ∨
      s.fresh.node.cachedFailures username paths p option = none ∧
        s.Hears (c.checkPrivilege (.forPaths username p paths option)) fun info =>
          info.status.code = .success ∧ ∀ i ∈ info.failedPositions, paths.length ≤ i
  tree : ∀ {username p t}, (s.authorizedTree c username p).1 = .ok t → t.patterns ≠ [] →
    s.fresh.node.cachedTree username p = some t ∨
      s.fresh.node.cachedTree username p = none ∧
        s.Hears (c.fetchTree (.forPaths username p [] false)) fun info =>
          info.status.code = .success ∧ PatternTree.ofBytes info.tree = .ok t
  login : ∀ username password, (s.login c username password).1.code = .success ↔
    (∃ u, s.fresh.node.cachedUser? username = some u ∧ u.accepts username password = true) ∨
      s.fresh.node.cachedUser? username = none ∧
        s.Hears (c.login ⟨username, password⟩) (·.status.code = .success)
  role : ∀ username rolename, (s.checkRole c username rolename).1 = .hasRole ↔
    (∃ u, s.fresh.node.cachedUser? username = some u ∧
      (u.openId = true ∨ u.hasRole rolename = true)) ∨
      s.fresh.node.cachedUser? username = none ∧
        s.Hears (c.checkMembership ⟨username, rolename⟩) (·.status.code = .success)
  operate : ∀ o, (s.operate c o).1.code = .success ↔
    s.Hears (c.operate o) (·.code = .success)
  query : ∀ q names, (s.query c q).1 = .ok names ↔
    s.Hears (c.query q) fun response => response.status.code = .success ∧ response.names = names

/-- What each call leaves of a site, whatever the remote side says. -/
structure Settled : Prop where
  emptied : s.fresh.node =
    if s.node.stale then { s.node with stale := false, cache := .empty } else s.node
  check : ∀ username p target option,
    Settles s.fresh (s.fresh.node.cachedVerdict username p target option ≠ none)
      (c.checkPrivilege (.forTarget username p target option)) (·.status.code = .success)
      PermissionInfo.user PermissionInfo.roles (s.checkPrivilege c username p target option).2
  noPaths : ∀ username p option, (s.checkPaths c username [] p option).2 = s
  paths : ∀ username {paths} p option, paths ≠ [] →
    Settles s.fresh (s.fresh.node.cachedFailures username paths p option ≠ none)
      (c.checkPrivilege (.forPaths username p paths option)) (·.status.code = .success)
      PermissionInfo.user PermissionInfo.roles (s.checkPaths c username paths p option).2
  misplaced : ∀ username {p fault}, p.check .path = .error fault →
    (s.authorizedTree c username p).2 = s
  tree : ∀ username {p}, p.check .path = .ok () →
    Settles s.fresh (s.fresh.node.cachedTree username p ≠ none)
      (c.fetchTree (.forPaths username p [] false))
      (fun info => info.status.code = .success ∧ ∃ t, PatternTree.ofBytes info.tree = .ok t)
      PatternTreeInfo.user PatternTreeInfo.roles (s.authorizedTree c username p).2
  login : ∀ username password,
    Settles s.fresh (s.fresh.node.cachedUser? username ≠ none)
      (c.login ⟨username, password⟩) (·.status.code = .success)
      PermissionInfo.user PermissionInfo.roles (s.login c username password).2
  role : ∀ username rolename,
    Settles s.fresh (s.fresh.node.cachedUser? username ≠ none)
      (c.checkMembership ⟨username, rolename⟩)
      (fun info => info.status.code = .success ∨ info.status.code = .userNotHasRole)
      PermissionInfo.user PermissionInfo.roles (s.checkRole c username rolename).2
  operate : ∀ o, (s.operate c o).2 = ⟨if (s.operate c o).1.code = .success
    then (s.node.invalidate o.affected.1 o.affected.2).2 else s.node, ((c.operate o).run s.remote).2⟩
  query : ∀ q, (s.query c q).2 = ⟨s.node, ((c.query q).run s.remote).2⟩

theorem guarded : Guarded c s where
  check := checkPrivilege_granted_iff c s
  verdict h := Node.vouches_of_cachedVerdict h
  paths username paths p option := checkPaths_granted_iff c s username p paths option
  tree ht hpatterns := of_authorizedTree c s _ _ ht hpatterns
  login := login_success_iff c s
  role := checkRole_hasRole_iff c s
  operate o := ask_iff (fun status : Status => status.code = .success) (fun _ h => by cases h)
    fun status => Node.takeOperation_passes
  query q names := ask_iff (· = Except.ok names) (fun _ h => by cases h) fun response =>
    Node.takeQuery_eq_ok

theorem settled : Settled c s where
  emptied := by
    simp only [fresh, Node.fresh, Node.refresh]
    split <;> rfl
  check := settles_checkPrivilege c s
  noPaths username p option := rfl
  paths username paths p option hpaths := settles_checkPaths c s username p option hpaths
  misplaced username p fault hscope := by rw [authorizedTree, hscope]
  tree username p hscope := settles_authorizedTree c s username p hscope
  login := settles_login c s
  role := settles_checkRole c s
  operate := operate_snd c s
  query q := rfl

/-- Whatever the remote side answers: who passes was let pass by the cache or by a success, and the
cache is what it was, but for the answers that count. -/
theorem failsClosed : Guarded c s ∧ Settled c s := ⟨guarded c s, settled c s⟩

end Site

end Warden
