import Warden.Proofs.Node.Closed
import Warden.Remote.Script

namespace Warden

namespace StatusCode

def Denies (code : StatusCode) : Prop :=
  code = noPermission ∨ code = userNotExist ∨ code = roleNotExist

/-- The codes that settle a check; all others leave it open. -/
def Settles (code : StatusCode) : Prop := code = success ∨ code.Denies

end StatusCode

namespace CheckOutcome

variable {status : Status}

theorem ofStatus_of_denies (h : status.code.Denies) : ofStatus status = .denied := by
  rw [ofStatus]
  rcases h with h | h | h <;> rw [h]

theorem ofStatus_of_not_settles (h : ¬status.code.Settles) :
    ofStatus status = .failed (status.message.getD status.code.name) := by
  rw [ofStatus]
  cases hcode : status.code <;> simp_all [StatusCode.Settles, StatusCode.Denies]

end CheckOutcome

namespace Node

variable {info : PermissionInfo} {total : Nat}

/-- An answer that refuses a list of paths and reports no position of it. -/
def Sweeping (info : PermissionInfo) (total : Nat) : Prop :=
  info.status.code.Denies ∧ ∀ i ∈ info.failedPositions, total ≤ i

/-- What the failed positions of a list are, by an answer that settles it. -/
structure Fails (info : PermissionInfo) (total : Nat) (failed : List Nat) : Prop where
  ascending : failed.Pairwise (· < ·)
  below : ∀ i ∈ failed, i < total
  all : Sweeping info total → failed = List.range total
  reported : ¬Sweeping info total → ∀ i, i ∈ failed ↔ i ∈ info.failedPositions ∧ i < total

theorem fails_range (h : Sweeping info total) : Fails info total (List.range total) where
  ascending := List.pairwise_lt_range
  below _ := List.mem_range.1
  all _ := rfl
  reported hno := absurd h hno

theorem fails_failedBelow (h : ¬Sweeping info total) :
    Fails info total (failedBelow total info.failedPositions) where
  ascending := Site.ascending_failedBelow total info.failedPositions
  below _ hi := (Site.mem_failedBelow.1 hi).1
  all hall := absurd hall h
  reported _ i := by rw [Site.mem_failedBelow, and_comm]

theorem batchOf_settled (h : info.status.code.Settles) :
    ∃ failed, batchOf total info = .checked failed ∧ Fails info total failed := by
  rw [batchOf]
  rcases h with hsuccess | hdenies
  · have hno : ¬Sweeping info total := by
      rintro ⟨hdenies, -⟩
      rw [StatusCode.Denies, hsuccess] at hdenies
      simp at hdenies
    rw [CheckOutcome.ofStatus_eq_granted.2 hsuccess]
    exact ⟨_, rfl, fails_failedBelow hno⟩
  · rw [CheckOutcome.ofStatus_of_denies hdenies]
    refine ⟨_, rfl, ?_⟩
    split
    · rename_i hnone
      exact fails_range ⟨hdenies, failedBelow_eq_nil.1 (List.isEmpty_iff.1 hnone)⟩
    · rename_i hsome
      refine fails_failedBelow fun hsweeping => hsome ?_
      exact List.isEmpty_iff.2 (failedBelow_eq_nil.2 hsweeping.2)

end Node

namespace Site

open PrivilegeRequest

variable {ρ : Type} {c : Client ρ} {s : Site ρ} {username : String} {paths : List Pattern}
  {p : Privilege} {option : Bool}

/-- The paths at some positions of a list, one for each position and in their order. -/
def PathsAt (paths : List Pattern) (positions : List Nat) (named : List Pattern) : Prop :=
  named.map some = positions.map (paths[·]?)

theorem exists_pathsAt {positions : List Nat} (h : ∀ i ∈ positions, i < paths.length) :
    ∃ named, PathsAt paths positions named ∧
      pathList paths positions = "[" ++ ", ".intercalate (named.map Pattern.text) ++ "]" := by
  refine ⟨positions.filterMap (paths[·]?), ?_, ?_⟩
  · rw [PathsAt]
    induction positions with
    | nil => rfl
    | cons i positions ih =>
      obtain ⟨hi, hpositions⟩ := List.forall_mem_cons.1 h
      rw [List.filterMap_cons_some (List.getElem?_eq_getElem hi), List.map_cons, List.map_cons,
        ih hpositions, List.getElem?_eq_getElem hi]
  · rw [pathList, List.map_filterMap]

theorem checkPaths_of_undecided (hsome : paths ≠ [])
    (hcache : s.fresh.node.cachedFailures username paths p option = none) :
    (s.checkPaths c username paths p option).1 =
      (s.fresh.ask (c.checkPrivilege (forPaths username p paths option))
        (·.takeBatch paths.length ·)).1 := by
  have hfilled : paths.isEmpty = false := by simpa using hsome
  simp only [checkPaths, hfilled, Bool.false_eq_true, if_false, hcache]

theorem checkList_of_ordinary (hscope : p.scope = .path)
    (huser : s.node.isSuperUser username = false) :
    (s.checkList c username paths p option).1 =
      resultOf p paths (s.checkPaths c username paths p option).1 := by
  simp only [checkList, Privilege.check_eq_ok hscope, huser, Bool.false_eq_true, if_false]

theorem denial_of_checked {failed : List Nat} (hbelow : ∀ i ∈ failed, i < paths.length)
    (hsome : failed ≠ []) :
    ∃ named, PathsAt paths failed named ∧ (resultOf p paths (.checked failed)).status =
      refusal p (some ("[" ++ ", ".intercalate (named.map Pattern.text) ++ "]")) := by
  obtain ⟨named, hnamed, hlist⟩ := exists_pathsAt hbelow
  have hfilled : failed.isEmpty = false := by simpa using hsome
  refine ⟨named, hnamed, ?_⟩
  rw [resultOf, hfilled, hlist]
  rfl

/-- Beside any remote side, for a list of paths that the cache leaves open: no answer and an answer
that settles nothing come to an error, and every other one to failed positions as they should be. A
user whose list is refused is told the paths at these positions. -/
theorem checkPaths_normalised (c : Client ρ) (s : Site ρ) (username : String) (p : Privilege)
    (option : Bool) (hsome : paths ≠ [])
    (hcache : s.fresh.node.cachedFailures username paths p option = none) :
    let answer := ((c.checkPrivilege (forPaths username p paths option)).run s.remote).1
    let batch := (s.checkPaths c username paths p option).1
    let result := (s.checkList c username paths p option).1
    (∀ fault, answer = .error fault → batch = .failed fault.message) ∧
    (∀ info, answer = .ok info → ¬info.status.code.Settles →
      batch = .failed (info.status.message.getD info.status.code.name)) ∧
    ∀ info, answer = .ok info → info.status.code.Settles →
      ∃ failed, batch = .checked failed ∧ Node.Fails info paths.length failed ∧
        (p.scope = .path → s.node.isSuperUser username = false →
          result.failedPositions = failed ∧ (failed = [] → result.status = .success) ∧
          (failed ≠ [] → ∃ named, PathsAt paths failed named ∧ result.status =
            refusal p (some ("[" ++ ", ".intercalate (named.map Pattern.text) ++ "]")))) := by
  intro answer batch result
  have hbatch : batch = (s.fresh.node.takeBatch paths.length answer).1 :=
    checkPaths_of_undecided hsome hcache
  refine ⟨fun fault hanswer => ?_, fun info hanswer hopen => ?_, fun info hanswer hsettles => ?_⟩
  · rw [hbatch, hanswer]
    rfl
  · rw [hbatch, hanswer]
    change Node.batchOf paths.length info = _
    rw [Node.batchOf, CheckOutcome.ofStatus_of_not_settles hopen]
  · rw [hanswer] at hbatch
    obtain ⟨failed, hfailed, hfails⟩ : ∃ failed,
        Node.batchOf paths.length info = .checked failed ∧ Node.Fails info paths.length failed :=
      Node.batchOf_settled hsettles
    have hchecked : batch = .checked failed := hbatch.trans hfailed
    refine ⟨failed, hchecked, hfails, fun hscope huser => ?_⟩
    have hresult : result = resultOf p paths (.checked failed) := by
      rw [← hchecked]
      exact checkList_of_ordinary hscope huser
    rw [hresult]
    refine ⟨rfl, ?_, denial_of_checked hfails.below⟩
    rintro rfl
    rfl

/-- A refusal of three paths that reports positions out of order, twice and beyond the list. -/
theorem checkPaths_of_odd_positions :
    let path (text : String) := (Pattern.parse text).toOption.getD .everything
    let paths := [path "root.a", path "root.b", path "root.c"]
    let info : PermissionInfo := ⟨.bare .userNotExist, none, [], [7, 2, 0, 2, 3]⟩
    let s : Site Script := ⟨.ofConfig .standard, [.answer info.toJson]⟩
    let result := (s.checkList Script.client "user1" paths .readData false).1
    paths ≠ [] ∧ s.fresh.node.cachedFailures "user1" paths .readData false = none ∧
      (s.checkPaths Script.client "user1" paths .readData false).1 =
        .checked result.failedPositions ∧
      result.failedPositions.Pairwise (· < ·) ∧
      (∀ i, i ∈ result.failedPositions ↔ i = 0 ∨ i = 2) ∧
      ∃ named, PathsAt paths result.failedPositions named ∧ result.status =
        refusal .readData (some ("[" ++ ", ".intercalate (named.map Pattern.text) ++ "]")) := by
  intro path paths info s result
  have hsome : paths ≠ [] := List.cons_ne_nil _ _
  obtain ⟨-, -, hsettled⟩ :=
    checkPaths_normalised Script.client s "user1" .readData false hsome rfl
  obtain ⟨failed, hchecked, hfails, hresult⟩ :=
    hsettled info (by decide +kernel) (.inr (.inr (.inl rfl)))
  obtain ⟨rfl, -, hdenial⟩ := hresult rfl (by decide +kernel)
  -- Position 2 is of the list, so the refusal does not sweep all of it.
  have hreported := hfails.reported fun hsweeping =>
    absurd (hsweeping.2 2 (by decide)) (by decide)
  have hmem (i : Nat) : i ∈ result.failedPositions ↔ i = 0 ∨ i = 2 := by
    rw [hreported]
    change i ∈ [7, 2, 0, 2, 3] ∧ i < 3 ↔ _
    grind
  refine ⟨hsome, rfl, hchecked, hfails.ascending, hmem, hdenial ?_⟩
  exact List.ne_nil_of_mem ((hmem 0).2 (.inl rfl))

end Site

end Warden
