namespace Warden

inductive StatusCode
  | success
  | noPermission
  | executeStatementError
  | wrongLoginPassword
  | userNotExist
  | roleNotExist
  | userAlreadyExist
  | roleAlreadyExist
  | userNotHasRole
  | illegalPath
  | illegalPrivilege
  | illegalParameter
  | authIoError
  deriving DecidableEq, Repr

namespace StatusCode

def all : List StatusCode :=
  [success, noPermission, executeStatementError, wrongLoginPassword, userNotExist, roleNotExist,
   userAlreadyExist, roleAlreadyExist, userNotHasRole, illegalPath, illegalPrivilege,
   illegalParameter, authIoError]

def name : StatusCode → String
  | success => "SUCCESS"
  | noPermission => "NO_PERMISSION"
  | executeStatementError => "EXECUTE_STATEMENT_ERROR"
  | wrongLoginPassword => "WRONG_LOGIN_PASSWORD"
  | userNotExist => "USER_NOT_EXIST"
  | roleNotExist => "ROLE_NOT_EXIST"
  | userAlreadyExist => "USER_ALREADY_EXIST"
  | roleAlreadyExist => "ROLE_ALREADY_EXIST"
  | userNotHasRole => "USER_NOT_HAS_ROLE"
  | illegalPath => "ILLEGAL_PATH"
  | illegalPrivilege => "ILLEGAL_PRIVILEGE"
  | illegalParameter => "ILLEGAL_PARAMETER"
  | authIoError => "AUTH_IO_ERROR"

def ofName? (text : String) : Option StatusCode := all.find? (·.name = text)

theorem ofName?_name (c : StatusCode) : ofName? c.name = some c := by
  cases c <;> decide

end StatusCode

structure Status where
  code : StatusCode
  message : Option String
  deriving DecidableEq, Repr

namespace Status

def success : Status := ⟨.success, none⟩

def bare (code : StatusCode) : Status := ⟨code, none⟩

def explained (code : StatusCode) (message : String) : Status := ⟨code, some message⟩

def isSuccess (s : Status) : Bool := s.code = .success

def isDenied (s : Status) : Bool := s.code = .noPermission

def isExecutionError (s : Status) : Bool := s.code = .executeStatementError

def text (s : Status) : String :=
  match s.message with
  | some message => s.code.name ++ ": " ++ message
  | none => s.code.name

end Status

/-- What a check of one target came to. -/
inductive CheckOutcome
  | granted
  | denied
  | failed (message : String)
  deriving DecidableEq, Repr

namespace CheckOutcome

def ofBool (granted : Bool) : CheckOutcome := if granted then .granted else .denied

def ofStatus (s : Status) : CheckOutcome :=
  match s.code with
  | .success => .granted
  | .noPermission | .userNotExist | .roleNotExist => .denied
  | code => .failed (s.message.getD code.name)

end CheckOutcome

/-- What a check of a list of paths came to: the positions that failed, or no verdict. -/
inductive BatchOutcome
  | checked (positions : List Nat)
  | failed (message : String)
  deriving DecidableEq, Repr

namespace BatchOutcome

def allGranted : BatchOutcome → Bool
  | .checked positions => positions.isEmpty
  | .failed _ => false

end BatchOutcome

inductive Membership
  | hasRole
  | notGranted
  | failed (message : String)
  deriving DecidableEq, Repr

end Warden
