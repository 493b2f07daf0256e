import Warden.Status
import Warden.Target
import Warden.Text.Quoted

namespace Warden

inductive Operation
  | createUser (username password : String)
  | dropUser (username : String)
  | updatePassword (username password : String)
  | createRole (rolename : String)
  | dropRole (rolename : String)
  | grantRoleToUser (rolename username : String)
  | revokeRoleFromUser (rolename username : String)
  | grantUser (username : String) (privilege : Privilege) (target : Target) (grantOption : Bool)
  | revokeUser (username : String) (privilege : Privilege) (target : Target)
  | revokeUserGrantOption (username : String) (privilege : Privilege) (target : Target)
  | grantRole (rolename : String) (privilege : Privilege) (target : Target) (grantOption : Bool)
  | revokeRole (rolename : String) (privilege : Privilege) (target : Target)
  | revokeRoleGrantOption (rolename : String) (privilege : Privilege) (target : Target)
  deriving DecidableEq

namespace Operation

def name : Operation → String
  | createUser .. => "create_user"
  | dropUser _ => "drop_user"
  | updatePassword .. => "update_password"
  | createRole _ => "create_role"
  | dropRole _ => "drop_role"
  | grantRoleToUser .. => "grant_role_to_user"
  | revokeRoleFromUser .. => "revoke_role_from_user"
  | grantUser .. => "grant_user"
  | revokeUser .. => "revoke_user"
  | revokeUserGrantOption .. => "revoke_user_grant_option"
  | grantRole .. => "grant_role"
  | revokeRole .. => "revoke_role"
  | revokeRoleGrantOption .. => "revoke_role_grant_option"

/-- The user and the role that a change is about; the empty name stands for none. -/
def affected : Operation → String × String
  | createUser username _ | dropUser username | updatePassword username _
  | grantUser username .. | revokeUser username .. | revokeUserGrantOption username .. =>
    (username, "")
  | createRole rolename | dropRole rolename
  | grantRole rolename .. | revokeRole rolename .. | revokeRoleGrantOption rolename .. =>
    ("", rolename)
  | grantRoleToUser rolename username | revokeRoleFromUser rolename username =>
    (username, rolename)

/-- The text for listings, which leaves passwords out. -/
def summary (o : Operation) : String :=
  "PermissionOperation \x7b op: " ++ Text.quoted o.name ++ ", username: " ++
    Text.quoted o.affected.1 ++ ", rolename: " ++ Text.quoted o.affected.2 ++ ", .. \x7d"

end Operation

inductive Query
  | listUsers
  | listRoles
  | listRolesOfUser (username : String)
  | listUsersOfRole (rolename : String)
  deriving DecidableEq

structure QueryResponse where
  status : Status
  names : List String
  deriving DecidableEq

end Warden
