import Warden.Authority.Answers
import Warden.Authority.Backends
import Warden.Remote.Script

namespace Warden

/-- What hosts work on; each kind of host uses one part. -/
structure HostState where
  disk : Disk
  registry : Registry
  script : Script

namespace HostState

def replaceDisk (disk : Disk) (w : HostState) : HostState := { w with disk }

def replaceRegistry (registry : Registry) (w : HostState) : HostState := { w with registry }

def replaceScript (script : Script) (w : HostState) : HostState := { w with script }

end HostState

inductive Host
  | memory (authority : Authority Registry)
  | disk (authority : Authority Disk)
  | script

namespace Host

open HostState

def openMemory (config : Config) : Action HostState Host := do
  return memory (← (Authority.openMemory config).within registry replaceRegistry)

def openDisk (config : Config) : Action HostState Host := do
  return disk (← (Authority.openDisk config).within HostState.disk replaceDisk)

/-- Opens a host of the same kind anew. What is in memory is lost. -/
def reopen (config : Config) : Host → Action HostState Host
  | memory _ => fun w => openMemory config { w with registry := .empty }
  | disk _ => openDisk config
  | script => pure script

def client : Host → Client HostState
  | memory a => a.client.within registry replaceRegistry
  | disk a => a.client.within HostState.disk replaceDisk
  | script => Script.client.within HostState.script replaceScript

/-- Work for the authority that the host is, if it is one. -/
def direct {α : Type} (work : ∀ {σ : Type}, Authority σ → Action σ α) :
    Host → Option (Action HostState α)
  | memory a => some ((work a).within registry replaceRegistry)
  | disk a => some ((work a).within HostState.disk replaceDisk)
  | script => none

end Host

end Warden
