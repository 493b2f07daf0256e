import Warden.Remote.Client

namespace Warden

structure Line (ρ : Type) where
  remote : ρ
  down : Bool
  /-- Every request since the record was last cleared, the latest at the end. -/
  sent : List Request

namespace Line

variable {ρ : Type}

def replaceRemote (remote : ρ) (l : Line ρ) : Line ρ := { l with remote }

/-- A request is sent even when nobody is there to take it. -/
def transmit (request : Request) : Action (Line ρ) Unit := fun l =>
  let l := { l with sent := l.sent ++ [request] }
  if l.down then (.error (.transport "connection refused"), l) else (.ok (), l)

/-- A client at the near end of the line. -/
def client (c : Client ρ) : Client (Line ρ) :=
  (c.within Line.remote replaceRemote).guarded transmit

end Line

end Warden
