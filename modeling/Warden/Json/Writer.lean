import Warden.Json.Basic

namespace Warden.Json

/-- The blanks between the parts of a text. -/
structure Layout where
  gap : Nat → List Char
  afterColon : List Char

def compact : Layout := ⟨fun _ => [], []⟩

def indented : Layout := ⟨fun depth => '\n' :: List.replicate (2 * depth) ' ', [' ']⟩

def escapeChar (c : Char) : List Char :=
  if c = '"' then ['\\', '"']
  else if c = '\\' then ['\\', '\\']
  else if c = '\x08' then ['\\', 'b']
  else if c = '\t' then ['\\', 't']
  else if c = '\n' then ['\\', 'n']
  else if c = '\x0c' then ['\\', 'f']
  else if c = '\r' then ['\\', 'r']
  else if c.toNat < 0x20 then
    ['\\', 'u', '0', '0', Nat.digitChar (c.toNat / 16), Nat.digitChar (c.toNat % 16)]
  else [c]

def quote (text : String) : List Char :=
  '"' :: text.toList.flatMap escapeChar ++ ['"']

mutual

/-- What is not sound has no text. -/
def write (layout : Layout) (depth : Nat) : Json → List Char
  | .null => "null".toList
  | .bool true => "true".toList
  | .bool false => "false".toList
  | .natural n => Nat.toDigits 10 n
  | .number n => n.text
  | .string text => quote text
  | .array [] => ['[', ']']
  | .array (item :: items) =>
    '[' :: layout.gap (depth + 1) ++ write layout (depth + 1) item ++
      writeItems layout (depth + 1) items ++ layout.gap depth ++ [']']
  | .object [] => ['\x7b', '\x7d']
  | .object (field :: fields) =>
    '\x7b' :: layout.gap (depth + 1) ++ writeField layout (depth + 1) field ++
      writeFields layout (depth + 1) fields ++ layout.gap depth ++ ['\x7d']
  | .unpaired | .misnamed _ | .broken => []
termination_by structural j => j

def writeItems (layout : Layout) (depth : Nat) : List Json → List Char
  | [] => []
  | item :: items =>
    ',' :: layout.gap depth ++ write layout depth item ++ writeItems layout depth items
termination_by structural js => js

def writeFields (layout : Layout) (depth : Nat) : List (String × Json) → List Char
  | [] => []
  | field :: fields =>
    ',' :: layout.gap depth ++ writeField layout depth field ++ writeFields layout depth fields
termination_by structural fs => fs

def writeField (layout : Layout) (depth : Nat) : String × Json → List Char
  | (key, value) => quote key ++ ':' :: layout.afterColon ++ write layout depth value
termination_by structural f => f

end

section Texts

variable (layout : Layout) (depth : Nat)

theorem write_natural (n : Nat) : write layout depth (.natural n) = Nat.toDigits 10 n := rfl

theorem write_array (item : Json) (items : List Json) :
    write layout depth (.array (item :: items)) =
      '[' :: layout.gap (depth + 1) ++ write layout (depth + 1) item ++
        writeItems layout (depth + 1) items ++ layout.gap depth ++ [']'] := rfl

theorem write_object (name : String) (value : Json) (fields : List (String × Json)) :
    write layout depth (.object ((name, value) :: fields)) =
      '\x7b' :: layout.gap (depth + 1) ++
        (quote name ++ ':' :: layout.afterColon ++ write layout (depth + 1) value) ++
        writeFields layout (depth + 1) fields ++ layout.gap depth ++ ['\x7d'] := rfl

@[simp] theorem writeItems_nil : writeItems layout depth [] = [] := rfl

theorem writeItems_cons (item : Json) (items : List Json) :
    writeItems layout depth (item :: items) =
      ',' :: layout.gap depth ++ write layout depth item ++ writeItems layout depth items := rfl

@[simp] theorem writeFields_nil : writeFields layout depth [] = [] := rfl

theorem writeFields_cons (name : String) (value : Json) (fields : List (String × Json)) :
    writeFields layout depth ((name, value) :: fields) =
      ',' :: layout.gap depth ++
        (quote name ++ ':' :: layout.afterColon ++ write layout depth value) ++
        writeFields layout depth fields := rfl

end Texts

def text (layout : Layout) (j : Json) : String := String.ofList (write layout 0 j)

end Warden.Json
