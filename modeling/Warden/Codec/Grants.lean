import Warden.Grants.Basic
import Warden.Json.Record
import Warden.Json.Writer

namespace Warden

open Json

namespace Scope

def ofName? (text : String) : Option Scope := all.find? (·.name = text)

def toJson (s : Scope) : Json := .string s.name

def ofJson : Decoder Scope := decodeName ofName?

end Scope

namespace Privilege

def toJson (p : Privilege) : Json := .string p.name

def ofJson : Decoder Privilege := decodeName ofName?

end Privilege

namespace PrivilegeSet

def toJson (s : PrivilegeSet) : Json := .array (s.toList.map Privilege.toJson)

def ofJson : Decoder PrivilegeSet := fun medium j => do
  return ofList (← decodeList Privilege.ofJson medium j)

end PrivilegeSet

namespace Pattern

def toJson (p : Pattern) : Json := .string p.text

def ofJson : Decoder Pattern := fun medium j => do checked (parse (← decodeText medium j))

end Pattern

namespace Holding

def fields (h : Holding) : List (String × Json) :=
  [("privileges", h.held.toJson), ("grant_option", h.grantable.toJson)]

def toJson (h : Holding) : Json := .object h.fields

def names : List String := ["privileges", "grant_option"]

def parts (row : Row) : Reading (PrivilegeSet × PrivilegeSet) :=
  Prod.mk <$> row.withDefault "privileges" .empty PrivilegeSet.ofJson
    <*> row.withDefault "grant_option" .empty PrivilegeSet.ofJson

def ofJson : Decoder Holding := fun medium j => do
  let (held, grantable) ← decodeRecord names parts medium j
  checked (ofParts held grantable)

end Holding

namespace PathGrant

def toJson (g : PathGrant) : Json := .object (("pattern", g.pattern.toJson) :: g.holding.fields)

def names : List String := ["pattern", "privileges", "grant_option"]

def parts (row : Row) : Reading (Pattern × PrivilegeSet × PrivilegeSet) :=
  (fun pattern held grantable => (pattern, held, grantable))
    <$> row.required "pattern" Pattern.ofJson
    <*> row.required "privileges" PrivilegeSet.ofJson
    <*> row.withDefault "grant_option" .empty PrivilegeSet.ofJson

def ofJson : Decoder PathGrant := fun medium j => do
  let (pattern, held, grantable) ← decodeRecord names parts medium j
  checked (ofParts pattern held grantable)

end PathGrant

namespace DatabaseGrants

def mapToJson {α : Type} (encode : α → Json) (m : KeyMap α) : Json :=
  .object (m.entries.map fun e => (e.1, encode e.2))

def toJson (d : DatabaseGrants) : Json :=
  .object (d.own.fields ++
    if d.tables.isEmpty then [] else [("tables", mapToJson Holding.toJson d.tables)])

def ofJson : Decoder DatabaseGrants := fun medium j => do
  let (tables, held, grantable) ← decodeSpread ["tables"]
    (·.withDefault "tables" .empty (decodeMap Holding.ofJson)) Holding.parts medium j
  return ⟨← checked (Holding.ofParts held grantable), tables⟩

end DatabaseGrants

namespace ObjectGrants

def toJson (o : ObjectGrants) : Json := DatabaseGrants.mapToJson DatabaseGrants.toJson o.databases

def ofJson : Decoder ObjectGrants := fun medium j =>
  (decodeMap DatabaseGrants.ofJson medium j).map ObjectGrants.mk

end ObjectGrants

namespace Grants

def fields (g : Grants) : List (String × Json) :=
  ("system", g.system.toJson) ::
    (if g.paths.isEmpty then []
      else [("path_privileges", .array (g.paths.map PathGrant.toJson))]) ++
    (if g.objects.isEmpty then [] else [("object_privileges", g.objects.toJson)])

def toJson (g : Grants) : Json := .object g.fields

def names : List String := ["system", "path_privileges", "object_privileges"]

def parts (row : Row) : Reading Grants :=
  Grants.mk <$> row.withDefault "system" .empty Holding.ofJson
    <*> row.withDefault "path_privileges" [] (decodeList PathGrant.ofJson)
    <*> row.withDefault "object_privileges" .empty ObjectGrants.ofJson

def ofJson : Decoder Grants := decodeRecord names parts

end Grants

end Warden
