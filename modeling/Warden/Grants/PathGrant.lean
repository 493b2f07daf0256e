import Warden.Grants.Holding
import Warden.Path.Pattern

namespace Warden

structure PathGrant where
  pattern : Pattern
  holding : Holding
  deriving DecidableEq

namespace PathGrant

def new (pattern : Pattern) : PathGrant := ⟨pattern, .empty⟩

def checkScopes : List Privilege → Except Fault Unit
  | [] => .ok ()
  | p :: ps => do
    p.check .path
    checkScopes ps

def ofParts (pattern : Pattern) (held grantable : PrivilegeSet) : Except Fault PathGrant := do
  checkScopes held.toList
  if grantable.subset held then .ok ⟨pattern, held, grantable⟩
  else .error (Holding.optionExceeds held grantable (some pattern.text))

def isEmpty (g : PathGrant) : Bool := g.holding.isEmpty

def allows (g : PathGrant) (path : Pattern) (p : Privilege) (option : Bool) : Bool :=
  g.holding.allows p option && g.pattern.covers path

end PathGrant

/-- The entries of one principal, in the order in which they came. -/
abbrev PathGrants := List PathGrant

namespace PathGrants

def find? (gs : PathGrants) (pattern : Pattern) : Option Holding :=
  (List.find? (fun g => g.pattern = pattern) gs).map (·.holding)

/-- Replaces the holding of the first entry with the pattern. -/
def replace (pattern : Pattern) (holding : Holding) : PathGrants → PathGrants
  | [] => []
  | g :: gs =>
    if g.pattern = pattern then ⟨pattern, holding⟩ :: gs else g :: replace pattern holding gs

def allows (gs : PathGrants) (path : Pattern) (p : Privilege) (option : Bool) : Bool :=
  List.any gs (·.allows path p option)

def patternsGranting (gs : PathGrants) (p : Privilege) : List Pattern :=
  (List.filter (fun g => g.holding.has p) gs).map (·.pattern)

/-- A pattern without an entry gets one at the end. -/
def grant (gs : PathGrants) (pattern : Pattern) (p : Privilege) (option : Bool) :
    PathGrants × Bool :=
  match gs.find? pattern with
  | some holding =>
    let (holding, changed) := holding.grant p option
    (replace pattern holding gs, changed)
  | none =>
    let (holding, changed) := Holding.empty.grant p option
    (gs ++ [⟨pattern, holding⟩], changed)

def grantOption (pattern : Pattern) (p : Privilege) : Action PathGrants Bool :=
  .withinSome (·.find? pattern) (replace pattern) (Holding.grantOption p (some pattern.text))
    (.fail (Holding.optionWithout p (some pattern.text)))

/-- Entries that are left empty go, whatever their pattern. -/
def revoke (gs : PathGrants) (pattern : Pattern) (p : Privilege) : PathGrants × Bool :=
  match gs.find? pattern with
  | some holding =>
    let (holding, changed) := holding.revoke p
    (List.filter (!·.isEmpty) (replace pattern holding gs), changed)
  | none => (List.filter (!·.isEmpty) gs, false)

def revokeOption (gs : PathGrants) (pattern : Pattern) (p : Privilege) : PathGrants × Bool :=
  match gs.find? pattern with
  | some holding =>
    let (holding, changed) := holding.revokeOption p
    (replace pattern holding gs, changed)
  | none => (gs, false)

end PathGrants

end Warden
