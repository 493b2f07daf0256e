import Warden.Proofs.Node.Coverage

namespace Warden

namespace Site

open Authority PrivilegeRequest

variable {config : Config} {s : Site Registry} {username : String} {p : Privilege} {option : Bool}

theorem isSuccess_resultOf (p : Privilege) (paths : List Pattern) (failed : List Nat) :
    (resultOf p paths (.checked failed)).status.isSuccess = failed.isEmpty := by
  rw [Status.isSuccess, code_resultOf]
  cases failed <;> rfl

/-- A check of a node that follows an authority succeeds or is denied. -/
theorem Follows.isDenied_check (h : Follows config Eq s) {target : Target}
    (hscope : p.check target.scope = .ok ()) :
    (s.check (inMemory config).client username p target option).1.isDenied =
      !(s.check (inMemory config).client username p target option).1.isSuccess := by
  have hcheck := Reply.check.inj (h.check_due username p target option)
  simp only [hscope] at hcheck
  rw [hcheck]
  split
  · rfl
  · rw [Status.isDenied, Status.isSuccess, code_statusOf]
    split <;> rfl

/-- What a list comes to is what its paths come to. -/
theorem Follows.checkList_agrees (h : Follows config Eq s) (hscope : p.check .path = .ok ())
    (paths : List Pattern) :
    let batch := (s.checkList (inMemory config).client username paths p option).1
    batch.failedPositions = failures (fun path =>
        (s.check (inMemory config).client username p (.path path) option).1.isSuccess) paths ∧
      batch.status.isSuccess = batch.failedPositions.isEmpty := by
  have hlist := Reply.checkList.inj (h.checkList_due username paths p option)
  have hcheck (path : Pattern) := Reply.check.inj (h.check_due username p (.path path) option)
  have hpath (path : Pattern) : p.check (Target.path path).scope = .ok () := hscope
  simp only [hscope] at hlist
  simp only [hpath] at hcheck
  simp only [hlist, hcheck]
  by_cases hadmin : config.adminName = username
  · simp only [if_pos hadmin]
    refine ⟨?_, rfl⟩
    rw [eq_comm, ← List.isEmpty_iff, isEmpty_failures]
    exact fun _ _ => rfl
  · simp only [if_neg hadmin, isSuccess_statusOf, isSuccess_resultOf, failedPositions_resultOf]
    exact ⟨rfl, trivial⟩

/-- Whatever was asked of an authority before, and whichever stored users and roles a node has
cached: a list of paths reports the positions of the paths that are denied alone, in ascending
order, and succeeds if there are none. A list checked for the grant option succeeds if each path
does. -/
theorem checkList_pointwise {a : Authority Registry} {registry : Registry}
    (hopen : (openMemory config).run .empty = (.ok a, registry)) (acts : List Act) {n : Node}
    (hadmin : n.adminName = config.adminName)
    (husers : ∀ username u, n.cachedUser? username = some u →
      (a.after registry acts).users.get? username = some u)
    (hroles : ∀ rolename r, n.cache.roles.get? rolename = some r →
      (a.after registry acts).roles.get? rolename = some r)
    (hscope : p.scope = .path) (username : String) (paths : List Pattern) :
    let s : Site Registry := ⟨n, a.after registry acts⟩
    let single (path : Pattern) (option : Bool) :=
      (s.check a.client username p (.path path) option).1
    let batch (option : Bool) := (s.checkList a.client username paths p option).1
    (batch false).failedPositions.Pairwise (· < ·) ∧
    (∀ i, i ∈ (batch false).failedPositions ↔
      ∃ path, paths[i]? = some path ∧ (single path false).isDenied = true) ∧
    ((batch false).status.isSuccess = true ↔ (batch false).failedPositions = []) ∧
    ((batch true).status.isSuccess = true ↔
      ∀ path ∈ paths, (single path true).isSuccess = true) := by
  obtain ⟨rfl, hfollows⟩ := follows_after hopen acts hadmin husers hroles
  have hcheck : p.check .path = .ok () := Privilege.check_eq_ok hscope
  intro s single batch
  have hbatch (option : Bool) : (batch option).failedPositions =
      failures (fun path => (single path option).isSuccess) paths ∧
      (batch option).status.isSuccess = (batch option).failedPositions.isEmpty :=
    hfollows.checkList_agrees hcheck paths
  have hpath (path : Pattern) : p.check (Target.path path).scope = .ok () := hcheck
  have hdenied (path : Pattern) : (single path false).isDenied = !(single path false).isSuccess :=
    hfollows.isDenied_check (hpath path)
  refine ⟨?_, fun i => ?_, ?_, ?_⟩
  · rw [(hbatch false).1]
    exact failures_ascending _ _
  · simp only [(hbatch false).1, mem_failures, hdenied, Bool.not_eq_true']
  · rw [(hbatch false).2, List.isEmpty_iff]
  · rw [(hbatch true).2, (hbatch true).1, isEmpty_failures]

/-- A node that has seen the users and none of the roles: of three paths, the two that the user's role
does not reach are reported. -/
theorem checkList_of_reader :
    let path (text : String) := (Pattern.parse text).toOption.getD .everything
    let acts : List Act := [.apply (.createUser "alice" "secret"), .apply (.createRole "reader"),
      .apply (.grantRole "reader" .readData (.path (path "root.sg.**")) true),
      .apply (.grantRoleToUser "reader" "alice")]
    let users := ((inMemory .standard).after (.founded .standard) acts).users
    let n : Node := { Node.ofConfig .standard with cache := ⟨users, .empty⟩ }
    let s : Site Registry := ⟨n, (inMemory .standard).after (.founded .standard) acts⟩
    let paths := [path "root.other", path "root.sg.d1", path "root.other"]
    let failed := (s.checkList (inMemory .standard).client "alice" paths .readData
      false).1.failedPositions
    failed.Pairwise (· < ·) ∧ 0 ∈ failed ∧ 1 ∉ failed ∧ 2 ∈ failed ∧
      (s.checkList (inMemory .standard).client "alice" paths .readData
        true).1.status.isSuccess = false := by
  intro path acts users n
  have hopen : (openMemory .standard).run .empty =
      (.ok (inMemory .standard), .founded .standard) := rfl
  obtain ⟨hascending, hpositions, -, hoption⟩ := checkList_pointwise hopen acts (n := n) rfl
    (fun _ _ hu => hu) (fun _ _ hr => by cases hr) (p := .readData) rfl "alice"
    [path "root.other", path "root.sg.d1", path "root.other"]
  dsimp only at hascending hpositions hoption
  refine ⟨hascending, ?_, ?_, ?_, ?_⟩
  · exact (hpositions 0).2 ⟨path "root.other", rfl, by decide +kernel⟩
  · intro hmem
    obtain ⟨_, hpath, hdenied⟩ := (hpositions 1).1 hmem
    obtain rfl : path "root.sg.d1" = _ := Option.some.inj hpath
    revert hdenied
    decide +kernel
  · exact (hpositions 2).2 ⟨path "root.other", rfl, by decide +kernel⟩
  · refine Bool.eq_false_iff.2 fun hall => ?_
    have hsuccess := hoption.1 hall (path "root.other") List.mem_cons_self
    revert hsuccess
    decide +kernel

end Site

end Warden
