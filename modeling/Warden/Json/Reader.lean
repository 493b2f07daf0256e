import Warden.Json.Basic

namespace Warden.Json

def isSpace (c : Char) : Bool := c = ' ' || c = '\n' || c = '\t' || c = '\r'

def skip (cs : List Char) : List Char := cs.dropWhile isSpace

def hexDigit? (c : Char) : Option Nat :=
  if '0' ≤ c ∧ c ≤ '9' then some (c.toNat - '0'.toNat)
  else if 'a' ≤ c ∧ c ≤ 'f' then some (c.toNat - 'a'.toNat + 10)
  else if 'A' ≤ c ∧ c ≤ 'F' then some (c.toNat - 'A'.toNat + 10)
  else none

def hexUnit? (a b c d : Char) : Option Nat := do
  return (((← hexDigit? a) * 16 + (← hexDigit? b)) * 16 + (← hexDigit? c)) * 16 + (← hexDigit? d)

def isHigh (unit : Nat) : Bool := 0xD800 ≤ unit && unit < 0xDC00

def isLow (unit : Nat) : Bool := 0xDC00 ≤ unit && unit < 0xE000

/-- The character that two halves make. -/
def paired (high low : Nat) : Char :=
  Char.ofNat (0x10000 + (high - 0xD800) * 0x400 + (low - 0xDC00))

def unescape? (c : Char) : Option Char :=
  if c = '"' ∨ c = '\\' ∨ c = '/' then some c
  else if c = 'b' then some '\x08'
  else if c = 'f' then some '\x0c'
  else if c = 'n' then some '\n'
  else if c = 'r' then some '\r'
  else if c = 't' then some '\t'
  else none

/-- What one place of a quoted text stands for. -/
inductive Piece
  | char (c : Char)
  | half (unit : Nat)

def Piece.ofUnit (unit : Nat) : Piece :=
  if isHigh unit || isLow unit then .half unit else .char (Char.ofNat unit)

/-- The pieces up to the closing quote, and the text after it. -/
def scan : List Char → Option (List Piece × List Char)
  | [] => none
  | '"' :: rest => some ([], rest)
  | '\\' :: 'u' :: a :: b :: c :: d :: rest => do
    let unit ← hexUnit? a b c d
    let (pieces, after) ← scan rest
    return (.ofUnit unit :: pieces, after)
  | '\\' :: c :: rest => do
    let c ← unescape? c
    let (pieces, after) ← scan rest
    return (.char c :: pieces, after)
  | c :: rest =>
    if c.toNat < 0x20 then none
    else do
      let (pieces, after) ← scan rest
      return (.char c :: pieces, after)

/-- The characters of the pieces; none when a half stands alone. -/
def joinHalves : List Piece → Option (List Char)
  | [] => some []
  | .char c :: pieces => (joinHalves pieces).map (c :: ·)
  | .half high :: .half low :: pieces =>
    if isHigh high && isLow low then (joinHalves pieces).map (paired high low :: ·) else none
  | .half _ :: _ => none

def readString (cs : List Char) : Option (Option String × List Char) :=
  (scan cs).map fun (pieces, rest) => ((joinHalves pieces).map String.ofList, rest)

def spanDigits (cs : List Char) : List Char × List Char := cs.span Char.isDigit

def readSign (cs : List Char) : Bool × List Char :=
  match cs with
  | '-' :: rest => (true, rest)
  | _ => (false, cs)

/-- The digits after a point, if there is one; none when there are no digits. -/
def readFraction : List Char → Option (List Char × List Char)
  | '.' :: rest =>
    match spanDigits rest with
    | ([], _) => none
    | (digits, rest) => some (digits, rest)
  | rest => some ([], rest)

/-- A signed number after `e`, if there is one; none when it has no digits. -/
def readExponent : List Char → Option (Option Int × List Char)
  | 'e' :: rest | 'E' :: rest =>
    let (negative, rest) :=
      match rest with
      | '+' :: rest => (false, rest)
      | rest => readSign rest
    match spanDigits rest with
    | ([], _) => none
    | (digits, rest) =>
      let n : Int := Numeral.value digits
      some (some (if negative then -n else n), rest)
  | rest => some (none, rest)

def numberOf (negative : Bool) (whole fraction : List Char) : Option Int → Json
  | none =>
    if negative = false ∧ fraction = [] then .natural (Numeral.value whole)
    else .number ⟨negative, whole, fraction, 0⟩
  | some exponent => .number ⟨negative, whole, fraction, exponent⟩

/-- A zero stands in front of no other digit. -/
def readNumber (cs : List Char) : Json × List Char :=
  let (negative, rest) := readSign cs
  let (whole, rest) := spanDigits rest
  if whole = [] ∨ (whole.head? = some '0' ∧ whole ≠ ['0']) then (.broken, [])
  else
    match readFraction rest with
    | none => (.broken, [])
    | some (fraction, rest) =>
      match readExponent rest with
      | none => (.broken, [])
      | some (exponent, rest) => (numberOf negative whole fraction exponent, rest)

/-- A field with the name that was read for it. -/
def field : Option String → Json → String × Json
  | some name, value => (name, value)
  | none, value => ("", .misnamed value)

mutual

/-- A value at the front of a text, and the rest of the text. -/
def readValue : Nat → List Char → Json × List Char
  | 0, _ => (.broken, [])
  | fuel + 1, cs =>
    match skip cs with
    | 'n' :: 'u' :: 'l' :: 'l' :: rest => (.null, rest)
    | 't' :: 'r' :: 'u' :: 'e' :: rest => (.bool true, rest)
    | 'f' :: 'a' :: 'l' :: 's' :: 'e' :: rest => (.bool false, rest)
    | '"' :: rest =>
      match readString rest with
      | some (some text, rest) => (.string text, rest)
      | some (none, rest) => (.unpaired, rest)
      | none => (.broken, [])
    | '[' :: rest =>
      match skip rest with
      | ']' :: rest => (.array [], rest)
      | rest =>
        let (items, rest) := readItems fuel rest
        (.array items, rest)
    | '\x7b' :: rest =>
      match skip rest with
      | '\x7d' :: rest => (.object [], rest)
      | rest =>
        let (fields, rest) := readFields fuel rest
        (.object fields, rest)
    | rest => readNumber rest

def readItems : Nat → List Char → List Json × List Char
  | 0, _ => ([.broken], [])
  | fuel + 1, cs =>
    let (item, rest) := readValue fuel cs
    match skip rest with
    | ',' :: rest =>
      let (items, rest) := readItems fuel rest
      (item :: items, rest)
    | ']' :: rest => ([item], rest)
    | _ => ([item, .broken], [])

def readFields : Nat → List Char → List (String × Json) × List Char
  | 0, _ => ([("", .broken)], [])
  | fuel + 1, cs =>
    match skip cs with
    | '"' :: rest =>
      match readString rest with
      | none => ([("", .broken)], [])
      | some (name, rest) =>
        match skip rest with
        | ':' :: rest =>
          let (value, rest) := readValue fuel rest
          match skip rest with
          | ',' :: rest =>
            let (fields, rest) := readFields fuel rest
            (field name value :: fields, rest)
          | '\x7d' :: rest => ([field name value], rest)
          | _ => ([field name value, ("", .broken)], [])
        | _ => ([("", .broken)], [])
    | _ => ([("", .broken)], [])

end

/-- A value, and whether nothing but blanks follows it. -/
structure Document where
  value : Json
  clean : Bool

/-- Each character takes at most two steps. -/
def read (cs : List Char) : Document :=
  let (value, rest) := readValue (2 * cs.length + 2) cs
  ⟨value, (skip rest).isEmpty⟩

end Warden.Json
