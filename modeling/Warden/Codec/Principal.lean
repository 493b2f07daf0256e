import Warden.Codec.Grants
import Warden.Principal

namespace Warden

open Json

def optionalField (name : String) : Option Json → List (String × Json)
  | some j => [(name, j)]
  | none => []

def listField {α : Type} (name : String) (encode : α → Json) (items : List α) :
    List (String × Json) :=
  if items.isEmpty then [] else [(name, .array (items.map encode))]

namespace Role

def toJson (r : Role) : Json := .object (("name", .string r.name) :: r.grants.fields)

def ofJson : Decoder Role := fun medium j => do
  let (name, grants) ← decodeSpread ["name"] (·.required "name" decodeText) Grants.parts medium j
  return ⟨name, grants⟩

end Role

namespace User

def toJson (u : User) : Json :=
  .object ([("name", .string u.name)] ++
    optionalField "password_hash" (u.passwordHash.map .string) ++
    [("open_id", .bool u.openId)] ++ listField "roles" .string u.roles.keys ++ u.grants.fields)

def names : List String := ["name", "password_hash", "open_id", "roles"]

def parts (row : Row) : Reading (Grants → User) :=
  (fun name hash openId roles grants => ⟨name, hash, openId, NameSet.ofNames roles, grants⟩)
    <$> row.required "name" decodeText
    <*> row.optional "password_hash" decodeText
    <*> row.withDefault "open_id" false decodeBool
    <*> row.withDefault "roles" [] (decodeList decodeText)

def ofJson : Decoder User := fun medium j => do
  let (build, grants) ← decodeSpread names parts Grants.parts medium j
  return build grants

end User

def Holder.toJson : Holder → Json
  | user u => u.toJson
  | role r => r.toJson

end Warden
