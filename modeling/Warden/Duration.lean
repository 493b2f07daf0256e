namespace Warden

structure Duration where
  nanos : Nat
  deriving DecidableEq, Repr

namespace Duration

def ofMillis (ms : Nat) : Duration := ⟨ms * 1000000⟩

def ofParts (seconds nanos : Nat) : Duration := ⟨seconds * 1000000000 + nanos⟩

def seconds (d : Duration) : Nat := d.nanos / 1000000000

def subsecond (d : Duration) : Nat := d.nanos % 1000000000

def millis (d : Duration) : Nat := d.nanos / 1000000

/-- Seconds and nanoseconds are divided apart, and the seconds that are left over go to the
nanoseconds. -/
def divide (d : Duration) (n : Nat) : Duration :=
  .ofParts (d.seconds / n)
    (d.subsecond / n + (d.seconds % n * 1000000000 + d.subsecond % n) / n)

/-- Sixty-four bits hold the result. -/
def saturatingMillis (d : Duration) : Nat := min d.millis 18446744073709551615

/-- The last `width` decimal digits of a number. -/
def digits : Nat → Nat → List Char
  | 0, _ => []
  | width + 1, n => digits width (n / 10) ++ [Nat.digitChar (n % 10)]

def dropZeros (cs : List Char) : List Char := (cs.reverse.dropWhile (· = '0')).reverse

/-- The quotient of `n` by `10 ^ places`, its fraction without closing zeros. -/
def decimal (n places : Nat) : String :=
  let whole := toString (n / Nat.pow 10 places)
  match dropZeros (digits places n) with
  | [] => whole
  | fraction => whole ++ "." ++ String.ofList fraction

def text (d : Duration) : String :=
  if 1000000000 ≤ d.nanos then decimal d.nanos 9 ++ "s"
  else if 1000000 ≤ d.nanos then decimal d.nanos 6 ++ "ms"
  else if 1000 ≤ d.nanos then decimal d.nanos 3 ++ "µs"
  else decimal d.nanos 0 ++ "ns"

end Duration

end Warden
