import Warden.Fault
import Warden.Json.Reader
import Warden.KeyMap

namespace Warden.Json

def malformed : Fault := .undecodable ""

/-- Reports a broken rule of a decoded type. -/
def checked {α : Type} : Except Fault α → Except Fault α
  | .ok a => .ok a
  | .error fault => .error (.undecodable fault.message)

/-- Where a decoder finds its value: in a text, with room for so many levels of nesting, or among
what was set aside of a text to be decoded later. -/
inductive Medium
  | text (room : Nat)
  | aside
  deriving DecidableEq

namespace Medium

def document : Medium := text maxNesting

/-- The medium inside of an array or an object. -/
def inner : Medium → Medium
  | text room => text (room - 1)
  | aside => aside

/-- Whether a value can be set aside. What was set aside before can. -/
def keeps : Medium → Json → Bool
  | text room, j => keepable room j
  | aside, _ => true

/-- Whether a value counts as no value beside a name. -/
def isBlank : Medium → Json → Bool
  | _, .null => true
  | aside, .object [] => true
  | _, _ => false

end Medium

abbrev Decoder (α : Type) := Medium → Json → Except Fault α

/-- Decodes a value that is known to be whole. -/
def decode {α : Type} (decoder : Decoder α) (j : Json) : Except Fault α := decoder .document j

def decodeText : Decoder String
  | _, .string text => .ok text
  | _, _ => .error malformed

def decodeBool : Decoder Bool
  | _, .bool value => .ok value
  | _, _ => .error malformed

def decodeBelow (limit : Nat) : Decoder Nat
  | _, .natural n => if n < limit then .ok n else .error malformed
  | _, _ => .error malformed

/-- A count in one machine word. -/
def decodeCount : Decoder Nat := decodeBelow 18446744073709551616

def decodeOptional {α : Type} (decoder : Decoder α) : Decoder (Option α)
  | _, .null => .ok none
  | medium, j => (decoder medium j).map some

def decodeList {α : Type} (decoder : Decoder α) : Decoder (List α)
  | medium, .array items => items.mapM (decoder medium.inner)
  | _, _ => .error malformed

/-- Of two fields with one name the later one stays. -/
def decodeMap {α : Type} (decoder : Decoder α) : Decoder (KeyMap α)
  | medium, .object fields => do
    return .ofList (← fields.mapM fun f => return (f.1, ← decoder medium.inner f.2))
  | _, _ => .error malformed

def known {α : Type} : Option α → Except Fault α
  | some a => .ok a
  | none => .error malformed

/-- A name alone, or as the only field of an object without a value. -/
def decodeName {α : Type} (ofName? : String → Option α) : Decoder α
  | _, .string name => known (ofName? name)
  | medium, .object [(name, value)] =>
    if medium.isBlank value then known (ofName? name) else .error malformed
  | _, _ => .error malformed

/-- What was read of a record: a value, or what is wrong and at which place of the record. -/
inductive Reading (α : Type)
  | value (a : α)
  | flaw (place : Nat) (fault : Fault)

namespace Reading

variable {α β : Type}

def map (f : α → β) : Reading α → Reading β
  | value a => value (f a)
  | flaw place fault => flaw place fault

/-- Of two flaws the one in front counts. -/
def apply : Reading (α → β) → Reading α → Reading β
  | value f, value a => value (f a)
  | value _, flaw place fault => flaw place fault
  | flaw place fault, value _ => flaw place fault
  | flaw place fault, flaw place' fault' =>
    if place' < place then flaw place' fault' else flaw place fault

instance : Applicative Reading where
  pure := value
  seq f a := apply f (a ())

/-- A decoded value at its place. -/
def ofExcept (place : Nat) : Except Fault α → Reading α
  | .ok a => value a
  | .error fault => flaw place fault

def toExcept : Reading α → Except Fault α
  | value a => .ok a
  | flaw _ fault => .error fault

end Reading

/-- The fields of a record in the order of the text, and the medium of their values. -/
structure Row where
  medium : Medium
  fields : List (String × Json)

namespace Row

variable {α : Type}

def places (row : Row) (name : String) : List (Nat × Json) :=
  row.fields.zipIdx.filterMap fun (field, place) =>
    if field.1 = name then some (place, field.2) else none

/-- A field is not repeated. -/
def once (row : Row) (name : String) : Reading Unit :=
  match row.places name with
  | _ :: (place, _) :: _ => .flaw place malformed
  | _ => .value ()

def field? (row : Row) (name : String) (decoder : Decoder α) : Reading (Option α) :=
  (match row.places name with
    | [] => .value none
    | (place, j) :: _ => (Reading.ofExcept place (decoder row.medium j)).map some) <* row.once name

def required (row : Row) (name : String) (decoder : Decoder α) : Reading α :=
  match row.field? name decoder with
  | .value (some a) => .value a
  | .value none => .flaw row.fields.length malformed
  | .flaw place fault => .flaw place fault

def withDefault (row : Row) (name : String) (default : α) (decoder : Decoder α) : Reading α :=
  (row.field? name decoder).map (·.getD default)

/-- A missing field and the value `null` both stand for none. -/
def optional (row : Row) (name : String) (decoder : Decoder α) : Reading (Option α) :=
  row.withDefault name none (decodeOptional decoder)

/-- Every field with another name has a sound name, and a value that passes a test. -/
def others (row : Row) (names : List String) (test : Json → Bool) : Reading Unit :=
  match row.fields.zipIdx.find? fun (field, _) =>
      !names.contains field.1 && !(named field.2 && test field.2) with
  | some (_, place) => .flaw place malformed
  | none => .value ()
where
  named : Json → Bool
    | .misnamed _ => false
    | _ => true

/-- The fields with other names can be passed over. -/
def othersPass (row : Row) (names : List String) : Reading Unit := row.others names passable

/-- The fields with other names can be set aside. -/
def othersKeep (row : Row) (names : List String) : Reading Unit :=
  row.others names row.medium.keeps

/-- The items of an array as the first fields of a record; one too many is a flaw at the end. -/
def ofItems (medium : Medium) (names : List String) (items : List Json) : Row :=
  ⟨medium, names.zip items ++ if names.length < items.length then [("", .broken)] else []⟩

end Row

/-- A record is an object, or an array of its fields in their order. -/
def decodeRecord {α : Type} (names : List String) (build : Row → Reading α) : Decoder α
  | medium, .object fields =>
    let row : Row := ⟨medium.inner, fields⟩
    (build row <* row.othersPass names).toExcept
  | medium, .array items =>
    let row := Row.ofItems medium.inner names items
    (build row <* row.othersPass names).toExcept
  | _, _ => .error malformed

/-- A record with a second one spread among its fields. The fields of the second are set aside until
the first is complete. -/
def decodeSpread {α β : Type} (names : List String) (build : Row → Reading α)
    (spread : Row → Reading β) : Decoder (α × β)
  | medium, .object fields => do
    let row : Row := ⟨medium.inner, fields⟩
    let a ← (build row <* row.othersKeep names).toExcept
    let b ← (spread ⟨.aside, fields.filter fun f => !names.contains f.1⟩).toExcept
    return (a, b)
  | _, _ => .error malformed

/-- A record whose kind is told by one of its fields, or by the first item of an array. The rest is
set aside until the kind is known. -/
def decodeTagged {α : Type} (tag : String) (decoder? : String → Option (Decoder α)) : Decoder α
  | medium, .object fields => do
    let row : Row := ⟨medium.inner, fields⟩
    let decoder ← (row.required tag kind <* row.othersKeep [tag]).toExcept
    decoder .aside (.object (fields.filter fun f => f.1 ≠ tag))
  | medium, .array (j :: items) => do
    let decoder ← kind medium.inner j
    if items.all medium.inner.keeps then decoder .aside (.array items) else .error malformed
  | _, _ => .error malformed
where
  kind : Decoder (Decoder α)
    | medium, j => do known (decoder? (← decodeText medium j))

/-- A whole text. What follows the value is looked at last. -/
def decodeChars {α : Type} (decoder : Decoder α) (cs : List Char) : Except Fault α := do
  let document := read cs
  let a ← decode decoder document.value
  if document.clean then .ok a else .error malformed

end Warden.Json
