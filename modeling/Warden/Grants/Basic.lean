import Warden.Grants.ObjectGrants
import Warden.Grants.PathGrant

namespace Warden

structure Grants where
  system : Holding
  paths : PathGrants
  objects : ObjectGrants
  deriving DecidableEq

namespace Grants

def empty : Grants := ⟨.empty, [], .empty⟩

instance : Inhabited Grants := ⟨empty⟩

def allows (g : Grants) (p : Privilege) (target : Target) (option : Bool) : Bool :=
  match target with
  | .system => g.system.allows p option
  | .path pattern => g.paths.allows pattern p option
  | .object database table => g.objects.allows database table p option

def patternsGranting (g : Grants) (p : Privilege) : List Pattern := g.paths.patternsGranting p

def inSystem (x : Action Holding Bool) : Action Grants Bool :=
  x.within system fun system g => { g with system }

def inPaths (x : Action PathGrants Bool) : Action Grants Bool :=
  x.within paths fun paths g => { g with paths }

def inObjects (x : Action ObjectGrants Bool) : Action Grants Bool :=
  x.within objects fun objects g => { g with objects }

def grant (p : Privilege) (target : Target) (option : Bool) : Action Grants Bool := do
  .ofExcept (p.check target.scope)
  match target with
  | .system => inSystem (.update (·.grant p option))
  | .path pattern => inPaths (.update (·.grant pattern p option))
  | .object database table => inObjects (ObjectGrants.grant database table p option)

/-- Adds the grant option to a privilege held on exactly this target. -/
def grantOption (p : Privilege) (target : Target) : Action Grants Bool := do
  .ofExcept (p.check target.scope)
  match target with
  | .system => inSystem (Holding.grantOption p none)
  | .path pattern => inPaths (PathGrants.grantOption pattern p)
  | .object database table => inObjects (ObjectGrants.grantOption database table p)

/-- Takes the privilege back, and the grant option with it. -/
def revoke (p : Privilege) (target : Target) : Action Grants Bool := do
  .ofExcept (p.check target.scope)
  match target with
  | .system => inSystem (.update (·.revoke p))
  | .path pattern => inPaths (.update (·.revoke pattern p))
  | .object database table => inObjects (ObjectGrants.revoke database table p)

def revokeOption (p : Privilege) (target : Target) : Action Grants Bool := do
  .ofExcept (p.check target.scope)
  match target with
  | .system => inSystem (.update (·.revokeOption p))
  | .path pattern => inPaths (.update (·.revokeOption pattern p))
  | .object database table => inObjects (ObjectGrants.revokeOption database table p)

end Grants

end Warden
