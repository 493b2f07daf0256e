import Warden.Rounding

namespace Warden

structure Numeral where
  negative : Bool
  /-- The digits in front of the point. -/
  whole : List Char
  /-- The digits after the point. -/
  fraction : List Char
  exponent : Int
  deriving DecidableEq

namespace Numeral

def digit (c : Char) : Nat := c.toNat - '0'.toNat

def value (digits : List Char) : Nat := digits.foldl (fun n c => 10 * n + digit c) 0

/-- Appends digits to a number while a machine word holds it. Gives the number and the rest. -/
def gather : Nat → List Char → Nat × List Char
  | n, [] => (n, [])
  | n, c :: cs =>
    if 10 * n + digit c < 18446744073709551616 then gather (10 * n + digit c) cs else (n, c :: cs)

/-- The leading digits and the power of ten that goes with them. -/
def leading (n : Numeral) : Nat × Int :=
  let (digits, wholeRest) := gather 0 n.whole
  let (digits, fractionRest) := gather digits n.fraction
  (digits, n.exponent + wholeRest.length + fractionRest.length - n.fraction.length)

/-- Whether the numeral has a finite double. -/
def fitsDouble (n : Numeral) : Bool :=
  let (digits, exponent) := n.leading
  if exponent < 0 then true
  else if 308 < exponent then digits = 0
  else Double.nearest digits * Double.nearest (Nat.pow 10 exponent.toNat) < Double.limit

def ofNat (n : Nat) : Numeral := ⟨false, Nat.toDigits 10 n, [], 0⟩

def text (n : Numeral) : List Char :=
  (if n.negative then ['-'] else []) ++ n.whole ++
    (if n.fraction.isEmpty then [] else '.' :: n.fraction) ++
    'e' :: (toString n.exponent).toList

end Numeral

end Warden
