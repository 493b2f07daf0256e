import Warden.Config
import Warden.Principal
import Warden.Store.Basic

namespace Warden

/-- Where users and roles are kept in a state. -/
structure Backend (σ : Type) where
  users : Store σ User
  roles : Store σ Role

structure Authority (σ : Type) where
  adminName : String
  minNameLength : Nat
  minPasswordLength : Nat
  backend : Backend σ

namespace Authority

variable {σ : Type}

def lengthRule (low high : Nat) : String := "length must be " ++ Config.range low high

def isNameChar (c : Char) : Bool := c.isAlphanum || c = '_'

def nameFlaw? (a : Authority σ) (name : String) : Option String :=
  if name.length < a.minNameLength ∨ Config.maxNameLength < name.length then
    some (lengthRule a.minNameLength Config.maxNameLength)
  else if name.toList.all isNameChar then none
  else some "only letters, digits and underscores are allowed"

def checkName (a : Authority σ) (kind : NameKind) (name : String) : Action σ Unit :=
  match a.nameFlaw? name with
  | some reason => .fail (.illegalName kind name reason)
  | none => pure ()

def passwordFlaw? (a : Authority σ) (password : String) : Option String :=
  if password.length < a.minPasswordLength ∨ Config.maxPasswordLength < password.length then
    some (lengthRule a.minPasswordLength Config.maxPasswordLength)
  else if password.toList.any Text.isBlank then some "whitespace is not allowed"
  else none

/-- The password itself stays out of the report. -/
def checkPassword (a : Authority σ) (password : String) : Action σ Unit :=
  match a.passwordFlaw? password with
  | some reason => .fail (.illegalName .password "<hidden>" reason)
  | none => pure ()

def isAdmin (a : Authority σ) (username : String) : Bool := a.adminName = username

def user? (a : Authority σ) (username : String) : Action σ (Option User) :=
  .look (a.backend.users.load username)

def role? (a : Authority σ) (rolename : String) : Action σ (Option Role) :=
  .look (a.backend.roles.load rolename)

def listUsers (a : Authority σ) : Action σ (List String) := .look a.backend.users.names

def listRoles (a : Authority σ) : Action σ (List String) := .look a.backend.roles.names

def saveUser (a : Authority σ) (u : User) : Action σ Unit :=
  .change fun s => return ((), ← a.backend.users.save u s)

def saveRole (a : Authority σ) (r : Role) : Action σ Unit :=
  .change fun s => return ((), ← a.backend.roles.save r s)

/-- Saves a user whose name is free; the answer tells whether it was. -/
def addUser (a : Authority σ) (u : User) : Action σ Bool := do
  match ← a.user? u.name with
  | some _ => return false
  | none =>
    a.saveUser u
    return true

/-- The administrator is bound by no rule for names and passwords. -/
def initAdmin (a : Authority σ) (password : String) : Action σ Bool :=
  a.addUser (.new a.adminName (Password.stored a.adminName password))

/-- An authority over a backend, with its administrator in place. -/
def start (config : Config) (backend : Backend σ) : Action σ (Authority σ) := do
  .ofExcept config.validate
  let a : Authority σ :=
    ⟨config.adminName, config.minNameLength, config.minPasswordLength, backend⟩
  discard (a.initAdmin config.adminPassword)
  return a

def createUser (a : Authority σ) (username password : String) : Action σ Bool := do
  a.checkName .user username
  a.checkPassword password
  a.addUser (.new username (Password.stored username password))

def createOpenIdUser (a : Authority σ) (username : String) : Action σ Bool := do
  a.checkName .user username
  a.addUser (.openIdentity username)

def dropUser (a : Authority σ) (username : String) : Action σ Bool :=
  if a.isAdmin username then
    .fail (.illegalName .user username "the administrator cannot be dropped")
  else .change (a.backend.users.delete username)

/-- Changes a copy of a stored user, and saves the copy if the change came to something. -/
def updateUser (a : Authority σ) (username : String) (mutate : Action User Bool) :
    Action σ Bool := do
  match ← a.user? username with
  | none => .fail (.noSuchUser username)
  | some u =>
    let (result, u) := mutate.run u
    let changed ← .ofExcept result
    if changed then a.saveUser u
    return changed

def updateRole (a : Authority σ) (rolename : String) (mutate : Action Role Bool) :
    Action σ Bool := do
  match ← a.role? rolename with
  | none => .fail (.noSuchRole rolename)
  | some r =>
    let (result, r) := mutate.run r
    let changed ← .ofExcept result
    if changed then a.saveRole r
    return changed

def updatePassword (a : Authority σ) (username password : String) : Action σ Unit := do
  a.checkPassword password
  discard (a.updateUser username (.update fun u =>
    ({ u with passwordHash := some (Password.stored username password) }, true)))

def createRole (a : Authority σ) (rolename : String) : Action σ Bool := do
  a.checkName .role rolename
  match ← a.role? rolename with
  | some _ => return false
  | none =>
    a.saveRole (.new rolename)
    return true

/-- Takes a role from each of the users that has it. -/
def stripRole (a : Authority σ) (rolename : String) : List String → Action σ Unit
  | [] => pure ()
  | username :: usernames => do
    match ← a.user? username with
    | none => pure ()
    | some u =>
      let (u, changed) := u.removeRole rolename
      if changed then a.saveUser u
    a.stripRole rolename usernames

/-- The role goes first, and then it is taken from its users. -/
def dropRole (a : Authority σ) (rolename : String) : Action σ Bool := do
  let removed ← Action.change (a.backend.roles.delete rolename)
  if removed then
    a.stripRole rolename (← a.listUsers)
  return removed

def grantRole (a : Authority σ) (rolename username : String) : Action σ Bool := do
  match ← a.role? rolename with
  | none => .fail (.noSuchRole rolename)
  | some _ => a.updateUser username (.update (·.addRole rolename))

def revokeRole (a : Authority σ) (rolename username : String) : Action σ Bool :=
  a.updateUser username (.update (·.removeRole rolename))

def onUserGrants (x : Action Grants Bool) : Action User Bool :=
  x.within User.grants fun grants u => { u with grants }

def onRoleGrants (x : Action Grants Bool) : Action Role Bool :=
  x.within Role.grants fun grants r => { r with grants }

def grantToUser (a : Authority σ) (username : String) (p : Privilege) (target : Target)
    (option : Bool) : Action σ Bool :=
  a.updateUser username (onUserGrants (Grants.grant p target option))

def revokeFromUser (a : Authority σ) (username : String) (p : Privilege) (target : Target) :
    Action σ Bool :=
  a.updateUser username (onUserGrants (Grants.revoke p target))

def revokeOptionFromUser (a : Authority σ) (username : String) (p : Privilege)
    (target : Target) : Action σ Bool :=
  a.updateUser username (onUserGrants (Grants.revokeOption p target))

def grantToRole (a : Authority σ) (rolename : String) (p : Privilege) (target : Target)
    (option : Bool) : Action σ Bool :=
  a.updateRole rolename (onRoleGrants (Grants.grant p target option))

def revokeFromRole (a : Authority σ) (rolename : String) (p : Privilege) (target : Target) :
    Action σ Bool :=
  a.updateRole rolename (onRoleGrants (Grants.revoke p target))

def revokeOptionFromRole (a : Authority σ) (rolename : String) (p : Privilege)
    (target : Target) : Action σ Bool :=
  a.updateRole rolename (onRoleGrants (Grants.revokeOption p target))

end Authority

end Warden
