import Warden.Duration
import Warden.Privilege
import Warden.Status
import Warden.Text.Blank

namespace Warden

/-- Why a text is no path. -/
inductive PathFlaw
  | empty
  | unrooted
  | emptySegment
  | innerWildcard
  deriving DecidableEq, Repr

namespace PathFlaw

def reason : PathFlaw → String
  | empty => "path is empty"
  | unrooted => "path must start with root"
  | emptySegment => "path contains an empty segment"
  | innerWildcard => "** is only allowed as the last segment"

end PathFlaw

/-- The kinds of text that have rules of their own. -/
inductive NameKind
  | user
  | role
  | password
  | entry
  deriving DecidableEq, Repr

namespace NameKind

def text : NameKind → String
  | user => "user name"
  | role => "role name"
  | password => "password"
  | entry => "entry name"

end NameKind

/-- Why something to be published is turned away. -/
inductive PublishFlaw
  | taken
  | other (text : String)
  deriving DecidableEq, Repr

namespace PublishFlaw

def reason : PublishFlaw → String
  | taken => "Duplicate metrics collector registration attempted"
  | other text => "Error: " ++ text

end PublishFlaw

inductive Fault
  | illegalPath (path : String) (flaw : PathFlaw)
  | wrongScope (privilege : String) (scope : Scope)
  | unknownPrivilege (text : String)
  | brokenOption (reason : String)
  | noSuchUser (name : String)
  | noSuchRole (name : String)
  | userExists (name : String)
  | roleExists (name : String)
  | illegalName (kind : NameKind) (value reason : String)
  | transport (reason : String)
  | timeout (after : Duration)
  | rejected (code : StatusCode) (message : String)
  | storage
  | undecodable (reason : String)
  | badConfig (reason : String)
  | metrics (flaw : PublishFlaw)
  deriving DecidableEq, Repr

namespace Fault

/-- The name of the kind of a fault. -/
def kind : Fault → String
  | illegalPath .. => "InvalidPath"
  | wrongScope .. => "InvalidPrivilege"
  | unknownPrivilege _ => "UnknownPrivilege"
  | brokenOption _ => "InvariantViolation"
  | noSuchUser _ => "UserNotExist"
  | noSuchRole _ => "RoleNotExist"
  | userExists _ => "UserAlreadyExists"
  | roleExists _ => "RoleAlreadyExists"
  | illegalName .. => "InvalidName"
  | transport _ => "Transport"
  | timeout _ => "Timeout"
  | rejected .. => "Remote"
  | storage => "Storage"
  | undecodable _ => "Serialization"
  | badConfig _ => "InvalidConfig"
  | metrics _ => "Metrics"

def message : Fault → String
  | illegalPath path flaw => "illegal path `" ++ path ++ "`: " ++ flaw.reason
  | wrongScope privilege scope =>
    "privilege " ++ privilege ++ " is not valid for " ++ scope.name ++ " scope"
  | unknownPrivilege text => "unknown privilege `" ++ text ++ "`"
  | brokenOption reason => "grant option invariant violated: " ++ reason
  | noSuchUser name => "no such user " ++ name
  | noSuchRole name => "no such role " ++ name
  | userExists name => "user " ++ name ++ " already exists"
  | roleExists name => "role " ++ name ++ " already exists"
  | illegalName kind value reason =>
    "illegal " ++ kind.text ++ " `" ++ value ++ "`: " ++ reason
  | transport reason => "authority transport failure: " ++ reason
  | timeout after => "authority request timed out after " ++ after.text
  | rejected _ message => "authority rejected request: " ++ message
  | storage => "storage failure: "
  | undecodable reason => "serialization failure: " ++ reason
  | badConfig reason => "invalid configuration: " ++ reason
  | metrics flaw => "metrics registration failed: " ++ flaw.reason

def code : Fault → StatusCode
  | illegalPath .. => .illegalPath
  | wrongScope .. | unknownPrivilege _ | brokenOption _ => .illegalPrivilege
  | noSuchUser _ => .userNotExist
  | noSuchRole _ => .roleNotExist
  | userExists _ => .userAlreadyExist
  | roleExists _ => .roleAlreadyExist
  | illegalName .. | badConfig _ | metrics _ => .illegalParameter
  | transport _ | timeout _ => .executeStatementError
  | rejected code _ => code
  | storage | undecodable _ => .authIoError

def status (f : Fault) : Status := .explained f.code f.message

/-- A step that came to a result came to one of each of its two parts. -/
theorem of_bind_ok {α β : Type} {x : Except Fault α} {f : α → Except Fault β} {b : β}
    (h : (x >>= f) = .ok b) : ∃ a, x = .ok a ∧ f a = .ok b := by
  cases x with
  | error fault => cases h
  | ok a => exact ⟨a, rfl, h⟩

theorem of_map_ok {α β : Type} {x : Except Fault α} {f : α → β} {b : β} (h : x.map f = .ok b) :
    ∃ a, x = .ok a ∧ f a = b := by
  cases x with
  | error fault => cases h
  | ok a => exact ⟨a, rfl, Except.ok.inj h⟩

end Fault

namespace Privilege

/-- Accepts a privilege where its scope allows it. -/
def check (p : Privilege) (scope : Scope) : Except Fault Unit :=
  if p.scope = scope then .ok () else .error (.wrongScope p.name scope)

theorem check_eq_ok {p : Privilege} {scope : Scope} (h : p.scope = scope) :
    p.check scope = .ok () := if_pos h

theorem scope_of_check {p : Privilege} {scope : Scope} (h : p.check scope = .ok ()) :
    p.scope = scope := by
  by_cases hscope : p.scope = scope
  · exact hscope
  · rw [check, if_neg hscope] at h
    cases h

theorem code_of_check {p : Privilege} {scope : Scope} {fault : Fault}
    (h : p.check scope = .error fault) : fault.code = .illegalPrivilege := by
  rw [check] at h
  split at h
  · cases h
  · cases h
    rfl

theorem isSuccess_of_check {p : Privilege} {scope : Scope} {fault : Fault}
    (h : p.check scope = .error fault) : fault.status.isSuccess = false := by
  rw [Fault.status, Status.explained, Status.isSuccess, code_of_check h]
  rfl

/-- The privilege of a name in either case, with blanks around it. -/
def parse (text : String) : Except Fault Privilege :=
  match ofName? (String.ofList ((Text.trimChars text.toList).map Char.toUpper)) with
  | some p => .ok p
  | none => .error (.unknownPrivilege text)

end Privilege

end Warden
