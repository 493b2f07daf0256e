import Warden.Fault

namespace Warden

/-- What becomes of a call once a worker makes it. -/
inductive Conduct
  | answers
  | stalls
  | dies
  deriving DecidableEq

structure Pool where
  workers : Nat
  capacity : Nat
  timeout : Duration
  /-- Workers that are at a call. -/
  busy : Nat
  /-- Queued calls whose callers still wait. -/
  waiting : Nat
  /-- Queued calls whose callers gave up. -/
  abandoned : Nat
  deriving DecidableEq

namespace Pool

def queueDepthPerWorker : Nat := 4

/-- There is always a worker. -/
def new (workers : Nat) (timeout : Duration) : Pool :=
  let workers := max workers 1
  ⟨workers, workers * queueDepthPerWorker, timeout, 0, 0, 0⟩

def queued (p : Pool) : Nat := p.waiting + p.abandoned

def saturated : Fault := .transport "authority worker pool is saturated"

def shutDown : Fault := .transport "authority worker pool is shut down"

def dropped (method : String) : Fault :=
  .transport ("authority worker dropped " ++ method ++ " without answering")

/-- A call that is waited for until it is answered or the time is over. -/
def call {α : Type} (p : Pool) (method : String) (conduct : Conduct) (answer : Except Fault α) :
    Except Fault α × Pool :=
  if p.workers = 0 then (.error shutDown, p)
  else if p.busy < p.workers then
    match conduct with
    | .answers => (answer, p)
    | .stalls => (.error (.timeout p.timeout), { p with busy := p.busy + 1 })
    | .dies => (.error (dropped method), { p with workers := p.workers - 1 })
  else if p.queued < p.capacity then
    (.error (.timeout p.timeout), { p with abandoned := p.abandoned + 1 })
  else (.error saturated, p)

/-- Every worker is at a call whose caller waits. -/
def occupied (p : Pool) : Pool := { p with busy := p.workers }

/-- And the rest of the queue is taken by calls whose callers wait. -/
def full (p : Pool) : Pool :=
  { p.occupied with waiting := p.waiting + (p.capacity - p.queued) }

/-- The calls in progress are answered and the queue is worked off. The number is that of the calls
made. -/
def release (p : Pool) : Nat × Pool :=
  (p.busy + p.waiting, { p with busy := 0, waiting := 0, abandoned := 0 })

end Pool

end Warden
