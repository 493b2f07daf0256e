import Warden.Principal

namespace Warden

/-- A check as callers of a node write it. -/
structure CheckRequest where
  principal : String
  privilege : Privilege
  target : Target
  grantOption : Bool
  deriving DecidableEq

/-- A check as it goes to the authority, of one target or of a list of paths. -/
structure PrivilegeRequest where
  username : String
  scope : Scope
  privilege : Privilege
  paths : List Pattern
  database : Option String
  table : Option String
  grantOption : Bool
  deriving DecidableEq

namespace PrivilegeRequest

def forPaths (username : String) (privilege : Privilege) (paths : List Pattern)
    (grantOption : Bool) : PrivilegeRequest :=
  ⟨username, .path, privilege, paths, none, none, grantOption⟩

def forTarget (username : String) (privilege : Privilege) (target : Target)
    (grantOption : Bool) : PrivilegeRequest :=
  match target with
  | .system => ⟨username, .system, privilege, [], none, none, grantOption⟩
  | .path pattern => forPaths username privilege [pattern] grantOption
  | .object database table =>
    ⟨username, .object, privilege, [], some database, table, grantOption⟩

/-- A missing database reads as the empty name. -/
def targets (r : PrivilegeRequest) : List Target :=
  match r.scope with
  | .system => [.system]
  | .path => r.paths.map .path
  | .object => [.object (r.database.getD "") r.table]

end PrivilegeRequest

structure LoginRequest where
  username : String
  password : String
  deriving DecidableEq

structure MembershipRequest where
  username : String
  rolename : String
  deriving DecidableEq

structure PermissionInfo where
  status : Status
  user : Option User
  roles : List Role
  failedPositions : List Nat
  deriving DecidableEq

namespace PermissionInfo

def bare (status : Status) : PermissionInfo := ⟨status, none, [], []⟩

end PermissionInfo

/-- The tree travels as the bytes of its written form. -/
structure PatternTreeInfo where
  status : Status
  tree : List UInt8
  user : Option User
  roles : List Role
  deriving DecidableEq

namespace PatternTreeInfo

def bare (status : Status) : PatternTreeInfo := ⟨status, [], none, []⟩

end PatternTreeInfo

end Warden
