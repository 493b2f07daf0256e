import Warden.Json.Numeral

namespace Warden

inductive Json
  | null
  | bool (value : Bool)
  /-- A number without sign, fraction and exponent. -/
  | natural (value : Nat)
  | number (numeral : Numeral)
  | string (text : String)
  /-- A quoted text one of whose escapes is half a character. -/
  | unpaired
  | array (items : List Json)
  | object (fields : List (String × Json))
  /-- The value of a field whose name is such a text. It stands nowhere but in a field. -/
  | misnamed (value : Json)
  | broken

namespace Json

instance : Inhabited Json := ⟨null⟩

mutual

/-- The value can be passed over: nothing in it is broken. -/
def passable : Json → Bool
  | .broken => false
  | .array items => passableItems items
  | .object fields => passableFields fields
  | .misnamed value => passable value
  | _ => true
termination_by structural j => j

def passableItems : List Json → Bool
  | [] => true
  | j :: js => passable j && passableItems js
termination_by structural js => js

def passableFields : List (String × Json) → Bool
  | [] => true
  | f :: fs => passableField f && passableFields fs
termination_by structural fs => fs

def passableField : String × Json → Bool
  | (_, j) => passable j
termination_by structural f => f

end

mutual

/-- The value can be set aside and read later: its texts and numbers are sound, and it is nested at
most `room` deep. -/
def keepable (room : Nat) : Json → Bool
  | .broken | .unpaired | .misnamed _ => false
  | .natural n => (Numeral.ofNat n).fitsDouble
  | .number n => n.fitsDouble
  | .array items => 0 < room && keepableItems (room - 1) items
  | .object fields => 0 < room && keepableFields (room - 1) fields
  | _ => true
termination_by structural j => j

def keepableItems (room : Nat) : List Json → Bool
  | [] => true
  | j :: js => keepable room j && keepableItems room js
termination_by structural js => js

def keepableFields (room : Nat) : List (String × Json) → Bool
  | [] => true
  | f :: fs => keepableField room f && keepableFields room fs
termination_by structural fs => fs

def keepableField (room : Nat) : String × Json → Bool
  | (_, j) => keepable room j
termination_by structural f => f

end

/-- How deep the values of a document may be nested, unless they are passed over. -/
def maxNesting : Nat := 127

end Json

end Warden
