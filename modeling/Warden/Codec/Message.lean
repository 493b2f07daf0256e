import Warden.Codec.Principal
import Warden.Message.Check
import Warden.Message.Management

namespace Warden

open Json

namespace StatusCode

def toJson (c : StatusCode) : Json := .string c.name

def ofJson : Decoder StatusCode := decodeName ofName?

end StatusCode

namespace Status

def toJson (s : Status) : Json :=
  .object (("code", s.code.toJson) :: optionalField "message" (s.message.map .string))

def ofJson : Decoder Status :=
  decodeRecord ["code", "message"] fun row =>
    Status.mk <$> row.required "code" StatusCode.ofJson <*> row.optional "message" decodeText

end Status

namespace Target

inductive Kind
  | system
  | path
  | object
  deriving DecidableEq

namespace Kind

def all : List Kind := [system, path, object]

def name : Kind → String
  | system => "system"
  | path => "path"
  | object => "object"

def ofName? (text : String) : Option Kind := all.find? (·.name = text)

/-- The kind at the front of an array: a name, or a number if it was set aside. -/
def ofFront : Decoder Kind
  | _, .string name => known (ofName? name)
  | .aside, .natural n => known all[n]?
  | _, _ => .error malformed

end Kind

def toJson : Target → Json
  | system => .object [("kind", .string "system")]
  | path pattern => .object [("kind", .string "path"), ("value", pattern.toJson)]
  | object database table =>
    .object [("kind", .string "object"),
      ("value", .object (("database", .string database) ::
        optionalField "table" (table.map .string)))]

/-- The value of a target of known kind. An object is written out, not listed. -/
def ofValue : Kind → Decoder Target
  | .system, _, .null => .ok .system
  | .system, _, _ => .error malformed
  | .path, medium, j => (Pattern.ofJson medium j).map .path
  | .object, medium, .object fields =>
    decodeRecord ["database", "table"] (fun row =>
      Target.object <$> row.required "database" decodeText <*> row.optional "table" decodeText)
      medium (.object fields)
  | .object, _, _ => .error malformed

/-- A value in front of its kind is set aside until the kind is known. -/
def valuePart (row : Row) (kindPlace : Nat) (kind : Kind) : Reading Target :=
  match row.places "value" with
  | [] => if kind = .system then .value .system else .flaw row.fields.length malformed
  | (place, j) :: _ =>
    if kindPlace < place then .ofExcept place (ofValue kind row.medium j)
    else if row.medium.keeps j then .ofExcept kindPlace (ofValue kind .aside j)
    else .flaw place malformed

def part (row : Row) : Reading Target :=
  (match row.places "kind" with
    | [] => .flaw row.fields.length malformed
    | (place, j) :: _ =>
      match decodeName Kind.ofName? row.medium j with
      | .ok kind => valuePart row place kind
      | .error fault => .flaw place fault) <* row.once "kind" <* row.once "value"

def ofJson : Decoder Target
  | medium, .object fields => decodeRecord ["kind", "value"] part medium (.object fields)
  | medium, .array (kind :: value :: rest) => do
    let target ← ofValue (← Kind.ofFront medium.inner kind) medium.inner value
    if rest.isEmpty then .ok target else .error malformed
  | _, _ => .error malformed

end Target

namespace CheckRequest

def toJson (r : CheckRequest) : Json :=
  .object [("principal", .string r.principal), ("privilege", r.privilege.toJson),
    ("target", r.target.toJson), ("grant_option", .bool r.grantOption)]

def ofJson : Decoder CheckRequest :=
  decodeRecord ["principal", "privilege", "target", "grant_option"] fun row =>
    CheckRequest.mk <$> row.required "principal" decodeText
      <*> row.required "privilege" Privilege.ofJson
      <*> row.required "target" Target.ofJson
      <*> row.withDefault "grant_option" false decodeBool

end CheckRequest

namespace PrivilegeRequest

def toJson (r : PrivilegeRequest) : Json :=
  .object ([("username", .string r.username), ("scope", r.scope.toJson),
      ("privilege", r.privilege.toJson)] ++ listField "paths" Pattern.toJson r.paths ++
    optionalField "database" (r.database.map .string) ++
    optionalField "table" (r.table.map .string) ++ [("grant_option", .bool r.grantOption)])

def ofJson : Decoder PrivilegeRequest :=
  decodeRecord ["username", "scope", "privilege", "paths", "database", "table", "grant_option"]
    fun row =>
      PrivilegeRequest.mk <$> row.required "username" decodeText
        <*> row.required "scope" Scope.ofJson
        <*> row.required "privilege" Privilege.ofJson
        <*> row.withDefault "paths" [] (decodeList Pattern.ofJson)
        <*> row.optional "database" decodeText
        <*> row.optional "table" decodeText
        <*> row.withDefault "grant_option" false decodeBool

end PrivilegeRequest

namespace LoginRequest

def toJson (r : LoginRequest) : Json :=
  .object [("username", .string r.username), ("password", .string r.password)]

def ofJson : Decoder LoginRequest :=
  decodeRecord ["username", "password"] fun row =>
    LoginRequest.mk <$> row.required "username" decodeText <*> row.required "password" decodeText

end LoginRequest

namespace MembershipRequest

def toJson (r : MembershipRequest) : Json :=
  .object [("username", .string r.username), ("rolename", .string r.rolename)]

def ofJson : Decoder MembershipRequest :=
  decodeRecord ["username", "rolename"] fun row =>
    MembershipRequest.mk <$> row.required "username" decodeText
      <*> row.required "rolename" decodeText

end MembershipRequest

namespace PermissionInfo

def toJson (i : PermissionInfo) : Json :=
  .object ([("status", i.status.toJson)] ++ optionalField "user" (i.user.map User.toJson) ++
    listField "roles" Role.toJson i.roles ++
    listField "failed_positions" .natural i.failedPositions)

def ofJson : Decoder PermissionInfo :=
  decodeRecord ["status", "user", "roles", "failed_positions"] fun row =>
    PermissionInfo.mk <$> row.required "status" Status.ofJson
      <*> row.optional "user" User.ofJson
      <*> row.withDefault "roles" [] (decodeList Role.ofJson)
      <*> row.withDefault "failed_positions" [] (decodeList decodeCount)

end PermissionInfo

namespace PatternTreeInfo

def byteToJson (b : UInt8) : Json := .natural b.toNat

def decodeByte : Decoder UInt8 := fun medium j => (decodeBelow 256 medium j).map UInt8.ofNat

def toJson (i : PatternTreeInfo) : Json :=
  .object ([("status", i.status.toJson), ("pattern_tree", .array (i.tree.map byteToJson))] ++
    optionalField "user" (i.user.map User.toJson) ++ listField "roles" Role.toJson i.roles)

def ofJson : Decoder PatternTreeInfo :=
  decodeRecord ["status", "pattern_tree", "user", "roles"] fun row =>
    PatternTreeInfo.mk <$> row.required "status" Status.ofJson
      <*> row.withDefault "pattern_tree" [] (decodeList decodeByte)
      <*> row.optional "user" User.ofJson
      <*> row.withDefault "roles" [] (decodeList Role.ofJson)

end PatternTreeInfo

namespace Operation

def userGrantFields (username : String) (privilege : Privilege) (target : Target) :
    List (String × Json) :=
  [("username", .string username), ("privilege", privilege.toJson), ("target", target.toJson)]

def roleGrantFields (rolename : String) (privilege : Privilege) (target : Target) :
    List (String × Json) :=
  [("rolename", .string rolename), ("privilege", privilege.toJson), ("target", target.toJson)]

def fields : Operation → List (String × Json)
  | createUser username password | updatePassword username password =>
    [("username", .string username), ("password", .string password)]
  | dropUser username => [("username", .string username)]
  | createRole rolename | dropRole rolename => [("rolename", .string rolename)]
  | grantRoleToUser rolename username | revokeRoleFromUser rolename username =>
    [("rolename", .string rolename), ("username", .string username)]
  | grantUser username privilege target grantOption =>
    userGrantFields username privilege target ++ [("grant_option", .bool grantOption)]
  | revokeUser username privilege target | revokeUserGrantOption username privilege target =>
    userGrantFields username privilege target
  | grantRole rolename privilege target grantOption =>
    roleGrantFields rolename privilege target ++ [("grant_option", .bool grantOption)]
  | revokeRole rolename privilege target | revokeRoleGrantOption rolename privilege target =>
    roleGrantFields rolename privilege target

def toJson (o : Operation) : Json := .object (("op", .string o.name) :: o.fields)

def account (make : String → String → Operation) : Decoder Operation :=
  decodeRecord ["username", "password"] fun row =>
    make <$> row.required "username" decodeText <*> row.required "password" decodeText

def named (field : String) (make : String → Operation) : Decoder Operation :=
  decodeRecord [field] fun row => make <$> row.required field decodeText

def membership (make : String → String → Operation) : Decoder Operation :=
  decodeRecord ["rolename", "username"] fun row =>
    make <$> row.required "rolename" decodeText <*> row.required "username" decodeText

def held (field : String) (make : String → Privilege → Target → Operation) : Decoder Operation :=
  decodeRecord [field, "privilege", "target"] fun row =>
    make <$> row.required field decodeText
      <*> row.required "privilege" Privilege.ofJson
      <*> row.required "target" Target.ofJson

def granted (field : String) (make : String → Privilege → Target → Bool → Operation) :
    Decoder Operation :=
  decodeRecord [field, "privilege", "target", "grant_option"] fun row =>
    make <$> row.required field decodeText
      <*> row.required "privilege" Privilege.ofJson
      <*> row.required "target" Target.ofJson
      <*> row.withDefault "grant_option" false decodeBool

def decoder? (name : String) : Option (Decoder Operation) :=
  match name with
  | "create_user" => some (account createUser)
  | "drop_user" => some (named "username" dropUser)
  | "update_password" => some (account updatePassword)
  | "create_role" => some (named "rolename" createRole)
  | "drop_role" => some (named "rolename" dropRole)
  | "grant_role_to_user" => some (membership grantRoleToUser)
  | "revoke_role_from_user" => some (membership revokeRoleFromUser)
  | "grant_user" => some (granted "username" grantUser)
  | "revoke_user" => some (held "username" revokeUser)
  | "revoke_user_grant_option" => some (held "username" revokeUserGrantOption)
  | "grant_role" => some (granted "rolename" grantRole)
  | "revoke_role" => some (held "rolename" revokeRole)
  | "revoke_role_grant_option" => some (held "rolename" revokeRoleGrantOption)
  | _ => none

def ofJson : Decoder Operation := decodeTagged "op" decoder?

end Operation

namespace Query

def toJson : Query → Json
  | listUsers => .object [("query", .string "list_users")]
  | listRoles => .object [("query", .string "list_roles")]
  | listRolesOfUser username =>
    .object [("query", .string "list_roles_of_user"), ("username", .string username)]
  | listUsersOfRole rolename =>
    .object [("query", .string "list_users_of_role"), ("rolename", .string rolename)]

/-- A question without parameters ignores the fields of an object. -/
def bare (query : Query) : Decoder Query
  | _, .object _ | _, .array [] => .ok query
  | _, _ => .error malformed

def named (field : String) (make : String → Query) : Decoder Query :=
  decodeRecord [field] fun row => make <$> row.required field decodeText

def decoder? (name : String) : Option (Decoder Query) :=
  match name with
  | "list_users" => some (bare listUsers)
  | "list_roles" => some (bare listRoles)
  | "list_roles_of_user" => some (named "username" listRolesOfUser)
  | "list_users_of_role" => some (named "rolename" listUsersOfRole)
  | _ => none

def ofJson : Decoder Query := decodeTagged "query" decoder?

end Query

namespace QueryResponse

def toJson (r : QueryResponse) : Json :=
  .object (("status", r.status.toJson) :: listField "names" .string r.names)

def ofJson : Decoder QueryResponse :=
  decodeRecord ["status", "names"] fun row =>
    QueryResponse.mk <$> row.required "status" Status.ofJson
      <*> row.withDefault "names" [] (decodeList decodeText)

end QueryResponse

end Warden
