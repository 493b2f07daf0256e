import Warden.Proofs.Node.Closed
import Warden.Remote.Script

namespace Warden

/-- What comes of the list of one path when the path alone comes to an outcome. -/
def CheckOutcome.alone : CheckOutcome → BatchOutcome
  | granted => .checked []
  | denied => .checked [0]
  | failed message => .failed message

structure BatchOutcome.Agrees (batch : BatchOutcome) (single : CheckOutcome) : Prop where
  granted : batch = .checked [] ↔ single = .granted
  denied : batch = .checked [0] ↔ single = .denied
  failed : ∀ message, batch = .failed message ↔ single = .failed message

theorem BatchOutcome.agrees_iff {batch : BatchOutcome} {single : CheckOutcome} :
    batch.Agrees single ↔ batch = single.alone := by
  constructor
  · intro h
    cases single with
    | granted => exact h.granted.2 rfl
    | denied => exact h.denied.2 rfl
    | failed message => exact (h.failed message).2 rfl
  · rintro rfl
    constructor <;> cases single <;> simp [CheckOutcome.alone]

/-- A success that reports failed positions, but not the first, which is all that a list of one has. -/
def PermissionInfo.Stray (info : PermissionInfo) : Prop :=
  info.status.code = .success ∧ info.failedPositions ≠ [] ∧ 0 ∉ info.failedPositions

namespace Node

variable {n : Node} {username : String} {path : Pattern} {p : Privilege} {option : Bool}
  {info : PermissionInfo}

theorem failedBelow_one (reported : List Nat) :
    failedBelow 1 reported = if 0 ∈ reported then [0] else [] := by
  have hascending : (if 0 ∈ reported then [0] else []).Pairwise (· < ·) := by split <;> simp
  refine (Site.ascending_failedBelow 1 reported).eq_of_mem_iff hascending fun i => ?_
  rw [Site.mem_failedBelow, Nat.lt_one_iff]
  split
  · rename_i hzero
    rw [List.mem_singleton]
    exact and_iff_left_of_imp fun hi => hi ▸ hzero
  · rename_i hzero
    exact iff_of_false (fun ⟨hi, hmem⟩ => hzero (hi ▸ hmem)) List.not_mem_nil

theorem batchOf_of_stray (h : info.Stray) : batchOf 1 info = .checked [] := by
  obtain ⟨hcode, -, hzero⟩ := h
  rw [batchOf, failedBelow_one, if_neg hzero, CheckOutcome.ofStatus_eq_granted.2 hcode]

theorem outcomeOf_of_stray (h : info.Stray) : outcomeOf info = .denied := by
  obtain ⟨hcode, hsome, -⟩ := h
  have hfilled : info.failedPositions.isEmpty = false := by simpa using hsome
  rw [outcomeOf, CheckOutcome.ofStatus_eq_granted.2 hcode]
  exact if_neg (Bool.eq_false_iff.1 hfilled)

theorem batchOf_one (h : ¬info.Stray) : batchOf 1 info = (outcomeOf info).alone := by
  rw [batchOf, outcomeOf, failedBelow_one]
  cases hstatus : CheckOutcome.ofStatus info.status with
  | granted =>
    have hcode := CheckOutcome.ofStatus_eq_granted.1 hstatus
    by_cases hzero : 0 ∈ info.failedPositions
    · have hfilled : info.failedPositions.isEmpty = false := by
        simpa using List.ne_nil_of_mem hzero
      simp [hzero, hfilled, CheckOutcome.alone]
    · have hnone : info.failedPositions = [] :=
        Classical.byContradiction fun hsome => h ⟨hcode, hsome, hzero⟩
      simp [hnone, CheckOutcome.alone]
  | denied => by_cases hzero : 0 ∈ info.failedPositions <;> simp [hzero, CheckOutcome.alone]
  | failed message => rfl

theorem cachedFailures_one : n.cachedFailures username [path] p option =
    (n.cachedVerdict username p (.path path) option).map fun passed =>
      if passed then [] else [0] := by
  rw [cachedFailures, cachedVerdict]
  cases n.cachedUser? username with
  | none => rfl
  | some u =>
    simp only [Option.bind_some, Cache.failures]
    cases n.cache.verdict u p (.path path) option <;> rfl

end Node

namespace Site

open PrivilegeRequest

variable {ρ : Type}

/-- The cache has no verdict, and the remote side gives a stray answer. -/
def Astray (c : Client ρ) (s : Site ρ) (username : String) (path : Pattern) (p : Privilege)
    (option : Bool) : Prop :=
  s.fresh.node.cachedVerdict username p (.path path) option = none ∧
    s.Hears (c.checkPrivilege (forPaths username p [path] option)) PermissionInfo.Stray

variable {c : Client ρ} {s : Site ρ} {username : String} {path : Pattern} {p : Privilege}
  {option : Bool}

/-- A path and the list of this one path are the same request. -/
theorem forTarget_path :
    forTarget username p (.path path) option = forPaths username p [path] option := rfl

theorem checkPaths_cached {passed : Bool}
    (h : s.fresh.node.cachedVerdict username p (.path path) option = some passed) :
    (s.checkPaths c username [path] p option).1 =
      (s.checkPrivilege c username p (.path path) option).1.alone := by
  simp only [checkPaths, checkPrivilege, List.isEmpty_cons, Bool.false_eq_true, if_false,
    Node.cachedFailures_one, h, Option.map_some]
  cases passed <;> rfl

theorem checkPaths_asked
    (h : s.fresh.node.cachedVerdict username p (.path path) option = none) :
    (s.checkPaths c username [path] p option).1 =
      (s.fresh.ask (c.checkPrivilege (forPaths username p [path] option)) (·.takeBatch 1 ·)).1 := by
  simp only [checkPaths, List.isEmpty_cons, Bool.false_eq_true, if_false, Node.cachedFailures_one,
    h, Option.map_none]
  rfl

theorem checkPrivilege_asked
    (h : s.fresh.node.cachedVerdict username p (.path path) option = none) :
    (s.checkPrivilege c username p (.path path) option).1 =
      (s.fresh.ask (c.checkPrivilege (forPaths username p [path] option)) Node.takeCheck).1 := by
  simp only [checkPrivilege, h, forTarget_path]

theorem checkPaths_eq_alone (h : ¬Astray c s username path p option) :
    (s.checkPaths c username [path] p option).1 =
      (s.checkPrivilege c username p (.path path) option).1.alone := by
  cases hverdict : s.fresh.node.cachedVerdict username p (.path path) option with
  | some passed => exact checkPaths_cached hverdict
  | none =>
    rw [checkPaths_asked hverdict, checkPrivilege_asked hverdict, fst_ask, fst_ask, remote_fresh]
    cases hanswer : ((c.checkPrivilege (forPaths username p [path] option)).run s.remote).1 with
    | error fault => rfl
    | ok info => exact Node.batchOf_one fun hstray => h ⟨hverdict, info, hanswer, hstray⟩

theorem of_astray (h : Astray c s username path p option) :
    (s.checkPaths c username [path] p option).1 = .checked [] ∧
      (s.checkPrivilege c username p (.path path) option).1 = .denied := by
  obtain ⟨hverdict, info, hanswer, hstray⟩ := h
  rw [checkPaths_asked hverdict, checkPrivilege_asked hverdict, fst_ask, fst_ask, remote_fresh,
    hanswer]
  exact ⟨Node.batchOf_of_stray hstray, Node.outcomeOf_of_stray hstray⟩

/-- Beside any remote side, a path asked about alone and in a list of its own gets the same reply,
unless the cache has no verdict and the answer is a stray one. Then the list passes, and the path
does not. -/
theorem checkPaths_agrees_iff (c : Client ρ) (s : Site ρ) (username : String) (path : Pattern)
    (p : Privilege) (option : Bool) :
    let single := (s.checkPrivilege c username p (.path path) option).1
    let batch := (s.checkPaths c username [path] p option).1
    (batch.Agrees single ↔ ¬Astray c s username path p option) ∧
      (Astray c s username path p option → batch = .checked [] ∧ single = .denied) := by
  refine ⟨?_, of_astray⟩
  rw [BatchOutcome.agrees_iff]
  constructor
  · intro heq hastray
    obtain ⟨hbatch, hsingle⟩ := of_astray hastray
    rw [hbatch, hsingle] at heq
    cases heq
  · exact checkPaths_eq_alone

/-- A success that reports position 1: the list of one path passes, the path alone does not. -/
theorem not_agrees_of_position_outside :
    let s : Site Script := ⟨.ofConfig .standard,
      [.answer (PermissionInfo.toJson ⟨.success, none, [], [1]⟩)]⟩
    let path := (Pattern.parse "root.a").toOption.getD .everything
    let single := (s.checkPrivilege Script.client "user1" .readData (.path path) false).1
    let batch := (s.checkPaths Script.client "user1" [path] .readData false).1
    batch = .checked [] ∧ single = .denied ∧ ¬batch.Agrees single := by
  intro s path single batch
  have hbatch : batch = .checked [] := by decide +kernel
  have hsingle : single = .denied := by decide +kernel
  refine ⟨hbatch, hsingle, fun hagrees => ?_⟩
  rw [hagrees.granted.1 hbatch] at hsingle
  cases hsingle

end Site

end Warden
