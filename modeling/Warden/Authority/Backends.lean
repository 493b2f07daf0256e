import Warden.Authority.Basic
import Warden.Store.Folder

namespace Warden

structure Registry where
  users : KeyMap User
  roles : KeyMap Role
  deriving DecidableEq

namespace Registry

def empty : Registry := ⟨.empty, .empty⟩

def backend : Backend Registry where
  users := (Store.memory User.name).within Registry.users fun users s => { s with users }
  roles := (Store.memory Role.name).within Registry.roles fun roles s => { s with roles }

/-- A registry with the given entries, under the names they carry. -/
def ofEntries (users : List User) (roles : List Role) : Registry where
  users := .ofList (users.map fun u => (u.name, u))
  roles := .ofList (roles.map fun r => (r.name, r))

end Registry

namespace Disk

def backend : Backend Disk where
  users := Folder.store User.form ["users"]
  roles := Folder.store Role.form ["roles"]

end Disk

namespace Authority

def openMemory (config : Config) : Action Registry (Authority Registry) :=
  start config Registry.backend

/-- Makes the folders before it looks at the settings. -/
def openDisk (config : Config) : Action Disk (Authority Disk) := do
  Folder.openAt ["users"]
  Folder.openAt ["roles"]
  start config Disk.backend

end Authority

end Warden
