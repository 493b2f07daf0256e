import Warden.Action

namespace Warden

structure Holding where
  held : PrivilegeSet
  grantable : PrivilegeSet
  deriving DecidableEq

namespace Holding

def empty : Holding := ⟨.empty, .empty⟩

instance : Inhabited Holding := ⟨empty⟩

def isEmpty (h : Holding) : Bool := h.held.isEmpty

def has (h : Holding) (p : Privilege) : Bool := h.held.contains p

def hasOption (h : Holding) (p : Privilege) : Bool := h.grantable.contains p

/-- Whether the privilege is held, or held with the grant option. -/
def allows (h : Holding) (p : Privilege) (option : Bool) : Bool :=
  if option then h.hasOption p else h.has p

def grant (h : Holding) (p : Privilege) (option : Bool) : Holding × Bool :=
  ({ held := h.held.insert p
     grantable := if option then h.grantable.insert p else h.grantable },
   !h.has p || (option && !h.hasOption p))

def revoke (h : Holding) (p : Privilege) : Holding × Bool :=
  ({ held := h.held.erase p, grantable := h.grantable.erase p }, h.has p)

def revokeOption (h : Holding) (p : Privilege) : Holding × Bool :=
  ({ h with grantable := h.grantable.erase p }, h.hasOption p)

def onText : Option String → String
  | some place => " on " ++ place
  | none => ""

def optionExceeds (held grantable : PrivilegeSet) (place : Option String) : Fault :=
  .brokenOption ("grant option " ++ grantable.label ++ onText place ++
    " exceeds held privileges " ++ held.label)

def optionWithout (p : Privilege) (place : Option String) : Fault :=
  .brokenOption ("cannot grant option for " ++ p.name ++ onText place ++
    " without the privilege itself")

/-- Only a privilege that is held can be made grantable. -/
def grantOption (p : Privilege) (place : Option String) : Action Holding Bool := do
  if ← .look fun h => .ok (h.has p) then
    .update fun h => ({ h with grantable := h.grantable.insert p }, !h.hasOption p)
  else .fail (optionWithout p place)

def ofParts (held grantable : PrivilegeSet) : Except Fault Holding :=
  if grantable.subset held then .ok ⟨held, grantable⟩
  else .error (optionExceeds held grantable none)

@[ext] theorem ext {h k : Holding} (hheld : ∀ p, h.has p = k.has p)
    (hgrantable : ∀ p, h.hasOption p = k.hasOption p) : h = k := by
  obtain ⟨held, grantable⟩ := h
  obtain ⟨held', grantable'⟩ := k
  obtain rfl : held = held' := PrivilegeSet.ext hheld
  obtain rfl : grantable = grantable' := PrivilegeSet.ext hgrantable
  rfl

@[simp] theorem has_empty (p : Privilege) : empty.has p = false := PrivilegeSet.contains_empty p

@[simp] theorem hasOption_empty (p : Privilege) : empty.hasOption p = false :=
  PrivilegeSet.contains_empty p

theorem has_grant (h : Holding) (p q : Privilege) (option : Bool) :
    (h.grant p option).1.has q = (decide (q = p) || h.has q) :=
  PrivilegeSet.contains_insert h.held p q

theorem has_revoke (h : Holding) (p q : Privilege) :
    (h.revoke p).1.has q = (!decide (q = p) && h.has q) :=
  PrivilegeSet.contains_erase h.held p q

theorem has_revokeOption (h : Holding) (p q : Privilege) :
    (h.revokeOption p).1.has q = h.has q := rfl

theorem hasOption_grant (h : Holding) (p q : Privilege) (option : Bool) :
    (h.grant p option).1.hasOption q = ((option && decide (q = p)) || h.hasOption q) := by
  cases option with
  | false => rfl
  | true => exact PrivilegeSet.contains_insert h.grantable p q

theorem hasOption_revoke (h : Holding) (p q : Privilege) :
    (h.revoke p).1.hasOption q = (!decide (q = p) && h.hasOption q) :=
  PrivilegeSet.contains_erase h.grantable p q

theorem hasOption_revokeOption (h : Holding) (p q : Privilege) :
    (h.revokeOption p).1.hasOption q = (!decide (q = p) && h.hasOption q) :=
  PrivilegeSet.contains_erase h.grantable p q

end Holding

end Warden
