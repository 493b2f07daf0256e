import Warden.Authority.Basic
import Warden.Message.Management

namespace Warden.Authority

variable {σ : Type}

/-- Fails with the fault unless the step came true. -/
def orFail (x : Action σ Bool) (fault : Fault) : Action σ Unit := do
  if ← x then pure () else .fail fault

theorem run_orFail (x : Action σ Bool) (fault : Fault) (s : σ) :
    (orFail x fault).run s =
      match x.run s with
      | (.ok true, s) => (.ok (), s)
      | (.ok false, s) => (.error fault, s)
      | (.error fault, s) => (.error fault, s) := by
  rw [orFail, Action.run_bind]
  rcases x.run s with ⟨_ | b, s'⟩
  · rfl
  · cases b <;> rfl

/-- A grant that is there already and a revoke of what is not there are no failures. -/
def apply (a : Authority σ) : Operation → Action σ Unit
  | .createUser username password => orFail (a.createUser username password) (.userExists username)
  | .dropUser username => orFail (a.dropUser username) (.noSuchUser username)
  | .updatePassword username password => a.updatePassword username password
  | .createRole rolename => orFail (a.createRole rolename) (.roleExists rolename)
  | .dropRole rolename => orFail (a.dropRole rolename) (.noSuchRole rolename)
  | .grantRoleToUser rolename username => discard (a.grantRole rolename username)
  | .revokeRoleFromUser rolename username => discard (a.revokeRole rolename username)
  | .grantUser username p target option => discard (a.grantToUser username p target option)
  | .revokeUser username p target => discard (a.revokeFromUser username p target)
  | .revokeUserGrantOption username p target => discard (a.revokeOptionFromUser username p target)
  | .grantRole rolename p target option => discard (a.grantToRole rolename p target option)
  | .revokeRole rolename p target => discard (a.revokeFromRole rolename p target)
  | .revokeRoleGrantOption rolename p target => discard (a.revokeOptionFromRole rolename p target)

/-- Those of the users who have a role. -/
def holders (a : Authority σ) (rolename : String) : List String → Action σ (List String)
  | [] => pure []
  | username :: usernames => do
    let u ← a.user? username
    let rest ← a.holders rolename usernames
    return if u.any (·.hasRole rolename) then username :: rest else rest

def answer (a : Authority σ) : Query → Action σ (List String)
  | .listUsers => return sortNames (← a.listUsers)
  | .listRoles => return sortNames (← a.listRoles)
  | .listRolesOfUser username => do
    match ← a.user? username with
    | none => .fail (.noSuchUser username)
    | some u => return sortNames u.roles.keys
  | .listUsersOfRole rolename => do
    match ← a.role? rolename with
    | none => .fail (.noSuchRole rolename)
    | some _ => return sortNames (← a.holders rolename (← a.listUsers))

/-- Faults become the status of the answer. -/
def operate (a : Authority σ) (o : Operation) : Action σ Status := fun s =>
  match (a.apply o).run s with
  | (.ok (), s) => (.ok .success, s)
  | (.error fault, s) => (.ok fault.status, s)

def query (a : Authority σ) (q : Query) : Action σ QueryResponse := fun s =>
  match (a.answer q).run s with
  | (.ok names, s) => (.ok ⟨.success, names⟩, s)
  | (.error fault, s) => (.ok ⟨fault.status, []⟩, s)

def outcomeStatus : Except Fault Unit → Status
  | .ok () => .success
  | .error fault => fault.status

def outcomeResponse : Except Fault (List String) → QueryResponse
  | .ok names => ⟨.success, names⟩
  | .error fault => ⟨fault.status, []⟩

theorem run_operate_eq (a : Authority σ) (o : Operation) (s : σ) : (a.operate o).run s =
    (.ok (outcomeStatus ((a.apply o).run s).1), ((a.apply o).run s).2) := by
  change a.operate o s = _
  rw [operate]
  rcases (a.apply o).run s with ⟨_ | _, _⟩ <;> rfl

theorem run_query_eq (a : Authority σ) (q : Query) (s : σ) : (a.query q).run s =
    (.ok (outcomeResponse ((a.answer q).run s).1), ((a.answer q).run s).2) := by
  change a.query q s = _
  rw [query]
  rcases (a.answer q).run s with ⟨_ | _, _⟩ <;> rfl

end Warden.Authority
