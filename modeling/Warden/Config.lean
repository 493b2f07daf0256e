import Warden.Fault

namespace Warden

structure Config where
  adminName : String
  adminPassword : String
  heartbeatTimeoutMs : Nat
  rpcTimeoutMs : Nat
  rpcWorkers : Nat
  acceptCache : Bool
  minNameLength : Nat
  minPasswordLength : Nat
  deriving DecidableEq

namespace Config

def maxNameLength : Nat := 64

def maxPasswordLength : Nat := 64

def standard : Config where
  adminName := "root"
  adminPassword := "root"
  heartbeatTimeoutMs := 20000
  rpcTimeoutMs := 10000
  rpcWorkers := 4
  acceptCache := true
  minNameLength := 4
  minPasswordLength := 4

def heartbeatTimeout (c : Config) : Duration := .ofMillis c.heartbeatTimeoutMs

def rpcTimeout (c : Config) : Duration := .ofMillis c.rpcTimeoutMs

def withAdmin (c : Config) (name password : String) : Config :=
  { c with adminName := name, adminPassword := password }

/-- Time below a millisecond is dropped. -/
def withHeartbeatTimeout (c : Config) (timeout : Duration) : Config :=
  { c with heartbeatTimeoutMs := timeout.saturatingMillis }

def withRpcTimeout (c : Config) (timeout : Duration) : Config :=
  { c with rpcTimeoutMs := timeout.saturatingMillis }

def range (low high : Nat) : String := "within " ++ toString low ++ "..=" ++ toString high

/-- What the settings break first. -/
def flaw? (c : Config) : Option String :=
  if c.adminName = "" then some "admin_name must not be empty"
  else if c.heartbeatTimeoutMs = 0 then some "heartbeat_timeout_ms must be positive"
  else if c.rpcTimeoutMs = 0 then some "rpc_timeout_ms must be positive"
  else if c.rpcWorkers = 0 then some "rpc_workers must be at least 1"
  else if c.minNameLength = 0 ∨ maxNameLength < c.minNameLength then
    some ("min_name_len must be " ++ range 1 maxNameLength)
  else if c.minPasswordLength = 0 ∨ maxPasswordLength < c.minPasswordLength then
    some ("min_password_len must be " ++ range 1 maxPasswordLength)
  else none

def validate (c : Config) : Except Fault Unit :=
  match c.flaw? with
  | some reason => .error (.badConfig reason)
  | none => .ok ()

theorem adminName_ne {c : Config} (h : c.flaw? = none) : c.adminName ≠ "" := by
  intro hname
  rw [flaw?, if_pos hname] at h
  cases h

theorem minNameLength_pos {c : Config} (h : c.flaw? = none) : 0 < c.minNameLength := by
  refine Nat.pos_of_ne_zero fun hzero => ?_
  rw [flaw?] at h
  repeat (split at h; · cases h)
  rename_i hname _
  exact hname (.inl hzero)

theorem flaw?_of_validate {c : Config} (h : c.validate = .ok ()) : c.flaw? = none := by
  rw [validate] at h
  cases hflaw : c.flaw? with
  | none => rfl
  | some reason =>
    rw [hflaw] at h
    cases h

/-- The settings themselves, if they meet their rules. -/
def checked (c : Config) : Except Fault Config := do
  c.validate
  return c

end Config

end Warden
