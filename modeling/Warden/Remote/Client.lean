import Warden.Action
import Warden.Message.Check
import Warden.Message.Management

namespace Warden

structure Client (ρ : Type) where
  checkPrivilege : PrivilegeRequest → Action ρ PermissionInfo
  login : LoginRequest → Action ρ PermissionInfo
  checkMembership : MembershipRequest → Action ρ PermissionInfo
  fetchTree : PrivilegeRequest → Action ρ PatternTreeInfo
  operate : Operation → Action ρ Status
  query : Query → Action ρ QueryResponse

inductive Request
  | checkPrivilege (request : PrivilegeRequest)
  | login (request : LoginRequest)
  | checkMembership (request : MembershipRequest)
  | fetchTree (request : PrivilegeRequest)
  | operate (operation : Operation)
  | query (query : Query)
  deriving DecidableEq

namespace Request

def name : Request → String
  | checkPrivilege _ => "check_privilege"
  | login _ => "login"
  | checkMembership _ => "check_role_membership"
  | fetchTree _ => "fetch_authorized_pattern_tree"
  | operate _ => "operate_permission"
  | query _ => "query_permission"

end Request

namespace Client

variable {ρ τ : Type}

def unsupportedOperation (o : Operation) : Fault :=
  .transport (o.name ++ " is not supported by this authority client")

def unsupportedQuery : Fault :=
  .transport "permission queries are not supported by this authority client"

/-- The client without its part in management. -/
def unmanaged (c : Client ρ) : Client ρ :=
  { c with
    operate := fun o => .fail (unsupportedOperation o)
    query := fun _ => .fail unsupportedQuery }

/-- Does something with each request before it is answered, or in place of an answer. -/
def guarded (c : Client ρ) (guard : Request → Action ρ Unit) : Client ρ where
  checkPrivilege r := do guard (.checkPrivilege r); c.checkPrivilege r
  login r := do guard (.login r); c.login r
  checkMembership r := do guard (.checkMembership r); c.checkMembership r
  fetchTree r := do guard (.fetchTree r); c.fetchTree r
  operate o := do guard (.operate o); c.operate o
  query q := do guard (.query q); c.query q

def within (c : Client ρ) (part : τ → ρ) (replace : ρ → τ → τ) : Client τ where
  checkPrivilege r := (c.checkPrivilege r).within part replace
  login r := (c.login r).within part replace
  checkMembership r := (c.checkMembership r).within part replace
  fetchTree r := (c.fetchTree r).within part replace
  operate o := (c.operate o).within part replace
  query q := (c.query q).within part replace

end Client

end Warden
