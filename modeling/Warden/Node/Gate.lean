import Warden.Node.Site

namespace Warden

/-- The answer to a check of a list of paths. -/
structure PathsResult where
  status : Status
  failedPositions : List Nat
  deriving DecidableEq

namespace Site

variable {ρ : Type}

def counted (s : Site ρ) : Site ρ := { s with node := { s.node with checks := s.node.checks + 1 } }

def refusal (p : Privilege) (place : Option String) : Status :=
  .explained .noPermission
    ("No permissions for this operation, please add privilege " ++ p.name ++ Holding.onText place)

def executionError (message : String) : Status := .explained .executeStatementError message

def pathList (paths : List Pattern) (positions : List Nat) : String :=
  "[" ++ ", ".intercalate (positions.filterMap fun i => (paths[i]?).map Pattern.text) ++ "]"

def statusOf (p : Privilege) (target : Target) : CheckOutcome → Status
  | .granted => .success
  | .denied => refusal p target.place?
  | .failed message => executionError message

def resultOf (p : Privilege) (paths : List Pattern) : BatchOutcome → PathsResult
  | .checked failed =>
    ⟨if failed.isEmpty then .success else refusal p (some (pathList paths failed)), failed⟩
  | .failed message => ⟨executionError message, []⟩

theorem code_statusOf (p : Privilege) (target : Target) (granted : Bool) :
    (statusOf p target (.ofBool granted)).code = if granted then .success else .noPermission := by
  cases granted <;> rfl

theorem code_resultOf (p : Privilege) (paths : List Pattern) (failed : List Nat) :
    (resultOf p paths (.checked failed)).status.code =
      if failed.isEmpty then .success else .noPermission := by
  cases failed <;> rfl

@[simp] theorem failedPositions_resultOf (p : Privilege) (paths : List Pattern)
    (failed : List Nat) : (resultOf p paths (.checked failed)).failedPositions = failed := rfl

def check (c : Client ρ) (s : Site ρ) (username : String) (p : Privilege) (target : Target)
    (option : Bool) : Status × Site ρ :=
  match p.check target.scope with
  | .error fault => (fault.status, s.counted)
  | .ok () =>
    if s.node.isSuperUser username then (.success, s.counted)
    else
      let (outcome, s) := s.checkPrivilege c username p target option
      (statusOf p target outcome, s.counted)

def checkList (c : Client ρ) (s : Site ρ) (username : String) (paths : List Pattern)
    (p : Privilege) (option : Bool) : PathsResult × Site ρ :=
  match p.check .path with
  | .error fault => (⟨fault.status, []⟩, s.counted)
  | .ok () =>
    if s.node.isSuperUser username then (⟨.success, []⟩, s.counted)
    else
      let (outcome, s) := s.checkPaths c username paths p option
      (resultOf p paths outcome, s.counted)

/-- The tree of the super user holds every path. -/
def tree (c : Client ρ) (s : Site ρ) (username : String) (p : Privilege) :
    Except Fault PatternTree × Site ρ :=
  if s.node.isSuperUser username then ((p.check .path).map fun _ => .everything, s)
  else s.authorizedTree c username p

end Site

end Warden
