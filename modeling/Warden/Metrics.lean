import Warden.Fault
import Warden.KeyMap
import Warden.Rounding

namespace Warden

/-- How many checks there were and how long they took together. -/
structure Tally where
  count : Nat
  total : Duration
  deriving DecidableEq

namespace Tally

/-- A divisor has thirty-two bits. -/
def greatestDivisor : Nat := 4294967295

/-- A count that is no divisor is taken for the greatest divisor. -/
def mean (t : Tally) : Duration :=
  if t.count = 0 then ⟨0⟩ else t.total.divide (min t.count greatestDivisor)

end Tally

namespace Duration

def toSeconds (d : Duration) : Float :=
  (UInt64.ofNat d.seconds).toFloat + (UInt64.ofNat d.subsecond).toFloat / 1000000000.0

/-- A finite number of seconds that is not negative, to the nearest nanosecond. -/
def ofSeconds (x : Float) : Duration :=
  let bits := x.toBits.toNat
  let exponent := bits / Nat.pow 2 52 % Nat.pow 2 11
  let fraction := bits % Nat.pow 2 52
  let digits := if exponent = 0 then fraction else fraction + Nat.pow 2 52
  let power : Int := (max exponent 1 : Nat) - 1075
  if 0 ≤ power then ⟨digits * Nat.pow 2 power.toNat * 1000000000⟩
  else ⟨roundDiv (digits * 1000000000) (Nat.pow 2 (-power).toNat)⟩

end Duration

structure Metrics where
  count : Nat
  sum : Float
  /-- The recorded latencies in seconds, the latest in front. -/
  samples : List Float

namespace Metrics

def empty : Metrics := ⟨0, 0.0, []⟩

def record (m : Metrics) (d : Duration) : Metrics :=
  ⟨m.count + 1, m.sum + d.toSeconds, d.toSeconds :: m.samples⟩

def tally (m : Metrics) : Tally := ⟨m.count, .ofSeconds m.sum⟩

/-- The upper bounds of the buckets in seconds. -/
def bounds : List Float := go 21 1e-5
where
  go : Nat → Float → List Float
    | 0, _ => []
    | n + 1, bound => bound :: go n (bound * 2.0)

/-- How many latencies are at most each of the bounds. -/
def buckets (m : Metrics) : List Nat :=
  bounds.map fun bound => (m.samples.filter (· ≤ bound)).length

structure Family where
  name : String
  help : String
  buckets : List Nat
  deriving DecidableEq

/-- What is published, in the order of the names. -/
def families (m : Metrics) : List Family :=
  [⟨"authority_check_latency_seconds", "Latency of privilege checks, including remote fallback",
    m.buckets⟩,
   ⟨"authority_check_total", "Total number of privilege checks answered by the checker", []⟩]

/-- Adds the families to those published already; a name is published once. -/
def register (published : NameSet) : Except Fault NameSet :=
  if empty.families.any fun f => published.contains f.name then
    .error (.metrics .taken)
  else .ok (empty.families.foldl (fun s f => NameSet.insert s f.name) published)

end Metrics

end Warden
