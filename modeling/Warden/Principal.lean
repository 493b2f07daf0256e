import Warden.Grants.Basic
import Warden.Path.Tree
import Warden.Password

namespace Warden

structure Role where
  name : String
  grants : Grants
  deriving DecidableEq

structure User where
  name : String
  passwordHash : Option String
  openId : Bool
  roles : NameSet
  grants : Grants
  deriving DecidableEq

namespace Role

def new (name : String) : Role := ⟨name, .empty⟩

def allows (r : Role) (p : Privilege) (target : Target) (option : Bool) : Bool :=
  r.grants.allows p target option

end Role

namespace User

def new (name hash : String) : User := ⟨name, some hash, false, .empty, .empty⟩

/-- A user who logs in elsewhere and has no password here. -/
def openIdentity (name : String) : User := ⟨name, none, true, .empty, .empty⟩

def allows (u : User) (p : Privilege) (target : Target) (option : Bool) : Bool :=
  u.openId || u.grants.allows p target option

def hasRole (u : User) (role : String) : Bool := u.roles.contains role

def addRole (u : User) (role : String) : User × Bool :=
  ({ u with roles := NameSet.insert u.roles role }, !u.hasRole role)

def removeRole (u : User) (role : String) : User × Bool :=
  ({ u with roles := u.roles.erase role }, u.hasRole role)

/-- Whether a password opens the account of the name it is given for. -/
def accepts (u : User) (username password : String) : Bool :=
  u.openId || u.passwordHash.any (Password.matches? username password)

end User

inductive Holder
  | user (u : User)
  | role (r : Role)
  deriving DecidableEq

namespace Holder

def name : Holder → String
  | user u => u.name
  | role r => r.name

def grants : Holder → Grants
  | user u => u.grants
  | role r => r.grants

def withGrants : Holder → Grants → Holder
  | user u, grants => user { u with grants }
  | role r, grants => role { r with grants }

def allows : Holder → Privilege → Target → Bool → Bool
  | user u => u.allows
  | role r => r.allows

end Holder

/-- The patterns on which a user or one of the roles holds a privilege. -/
def PatternTree.ofHolders (p : Privilege) (u : User) (roles : List Role) : PatternTree :=
  roles.foldl (fun t r => t.insertAll (r.grants.patternsGranting p))
    (PatternTree.empty.insertAll (u.grants.patternsGranting p))

end Warden
