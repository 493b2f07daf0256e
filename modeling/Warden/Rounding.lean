namespace Warden

/-- The quotient rounded to the nearest whole number, a half to the even one. -/
def roundDiv (n d : Nat) : Nat :=
  let q := n / d
  let r := n % d
  if 2 * r < d then q else if d < 2 * r then q + 1 else q + q % 2

namespace Double

/-- The nearest number with at most fifty-three binary digits. -/
def nearest (n : Nat) : Nat :=
  let unit := Nat.pow 2 (n.log2 - 52)
  roundDiv n unit * unit

/-- The least number that is too great for a double: half a unit above the greatest of them. -/
def limit : Nat := Nat.pow 2 1024 - Nat.pow 2 970

end Double

end Warden
