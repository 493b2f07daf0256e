import Warden.Authority.Answers
import Warden.Node.Basic

namespace Warden.Node

def takeInfo (n : Node) (info : PermissionInfo) : Node :=
  if info.status.isSuccess then n.remember info.user info.roles else n

/-- A success that names failed positions is a refusal. -/
def outcomeOf (info : PermissionInfo) : CheckOutcome :=
  match CheckOutcome.ofStatus info.status with
  | .granted => if info.failedPositions.isEmpty then .granted else .denied
  | outcome => outcome

def takeCheck (n : Node) : Except Fault PermissionInfo → CheckOutcome × Node
  | .error fault => (.failed fault.message, n)
  | .ok info => (outcomeOf info, n.takeInfo info)

/-- The reported positions below `total`, in ascending order and each of them once. -/
def failedBelow (total : Nat) (reported : List Nat) : List Nat :=
  ((reported.filter (· < total)).mergeSort (· ≤ ·)).eraseReps

/-- A refusal that names no position of the list refuses all of them. -/
def batchOf (total : Nat) (info : PermissionInfo) : BatchOutcome :=
  let failed := failedBelow total info.failedPositions
  match CheckOutcome.ofStatus info.status with
  | .granted => .checked failed
  | .denied => .checked (if failed.isEmpty then List.range total else failed)
  | .failed message => .failed message

def takeBatch (n : Node) (total : Nat) : Except Fault PermissionInfo → BatchOutcome × Node
  | .error fault => (.failed fault.message, n)
  | .ok info => (batchOf total info, n.takeInfo info)

def takeTree (n : Node) (answer : Except Fault PatternTreeInfo) : Except Fault PatternTree × Node :=
  match answer with
  | .error fault => (.error fault, n)
  | .ok info =>
    match info.status.code with
    | .success =>
      match PatternTree.ofBytes info.tree with
      | .ok tree => (.ok tree, n.remember info.user info.roles)
      | .error fault => (.error fault, n)
    | .userNotExist | .noPermission => (.ok .empty, n)
    | code => (.error (.rejected code (info.status.message.getD "")), n)

/-- An unknown user and a wrong password look the same. -/
def takeLogin (n : Node) : Except Fault PermissionInfo → Status × Node
  | .error fault => (.explained .executeStatementError fault.message, n)
  | .ok info =>
    match info.status.code with
    | .success => (.success, n.takeInfo info)
    | .userNotExist | .wrongLoginPassword => (Authority.authenticationFailed, n)
    | _ => (info.status, n)

def takeMembership (n : Node) : Except Fault PermissionInfo → Membership × Node
  | .error fault => (.failed fault.message, n)
  | .ok info =>
    match info.status.code with
    | .success => (.hasRole, n.remember info.user info.roles)
    | .userNotHasRole => (.notGranted, n.remember info.user info.roles)
    | _ => (.failed info.status.text, n)

/-- A change that succeeded makes what is cached about it worthless. -/
def takeOperation (n : Node) (o : Operation) : Except Fault Status → Status × Node
  | .error fault => (.explained .executeStatementError fault.message, n)
  | .ok status =>
    if status.isSuccess then
      let (username, rolename) := o.affected
      (status, (n.invalidate username rolename).2)
    else (status, n)

def takeQuery : Except Fault QueryResponse → Except Fault (List String)
  | .error fault => .error fault
  | .ok response =>
    if response.status.isSuccess then .ok response.names
    else .error (.rejected response.status.code (response.status.message.getD ""))

end Warden.Node
