import Mathlib.Data.Finset.Basic
import Warden.Proofs.Grants.Changes

namespace Warden

namespace Grants

/-- Privileges on exactly a target: those held, and those that may be granted to others. -/
structure Facts where
  held : Finset (Privilege × Target)
  grantable : Finset (Privilege × Target)
  deriving DecidableEq

namespace Facts

def none : Facts := ⟨∅, ∅⟩

def having (facts : Facts) (option : Bool) : Finset (Privilege × Target) :=
  if option then facts.grantable else facts.held

/-- A privilege does not belong to the target, or would become grantable without being held there. -/
def Refuses (facts : Facts) : Change → Prop
  | .grant p t _ => p.scope ≠ t.scope
  | .grantOption p t => p.scope ≠ t.scope ∨ (p, t) ∉ facts.held
  | .revoke p t => p.scope ≠ t.scope
  | .revokeOption p t => p.scope ≠ t.scope

instance (facts : Facts) (c : Change) : Decidable (facts.Refuses c) := by
  cases c <;> unfold Refuses <;> infer_instance

def carryOut (facts : Facts) : Change → Facts
  | .grant p t option =>
    { held := insert (p, t) facts.held
      grantable := if option then insert (p, t) facts.grantable else facts.grantable }
  | .grantOption p t => { facts with grantable := insert (p, t) facts.grantable }
  | .revoke p t => { held := facts.held.erase (p, t), grantable := facts.grantable.erase (p, t) }
  | .revokeOption p t => { facts with grantable := facts.grantable.erase (p, t) }

def after (facts : Facts) (c : Change) : Facts :=
  if facts.Refuses c then facts else facts.carryOut c

def Match (facts : Facts) (g : Grants) : Prop :=
  ∀ p t option, (p, t) ∈ facts.having option ↔ (g.heldOn t).allows p option = true

variable {facts : Facts} {g : Grants} {c : Change} {p : Privilege} {t : Target}

theorem match_none : none.Match .empty := by
  intro p t option
  rw [heldOn_empty, Holding.allows_empty]
  cases option <;> simp [none, having]

theorem Match.held_iff (h : facts.Match g) : (p, t) ∈ facts.held ↔ (g.heldOn t).has p = true :=
  h p t false

theorem Match.not_refuses (h : facts.Match g) {changed : Bool} {g' : Grants}
    (hc : (change c).run g = (.ok changed, g')) : ¬facts.Refuses c := by
  have hscope : c.privilege.scope = c.target.scope := (of_change hc).1
  cases c with
  | grant p t option => exact not_not_intro hscope
  | grantOption p t =>
    rintro (hmisplaced | hnot)
    · exact hmisplaced hscope
    · exact hnot (h.held_iff.2 (held_of_grantOption hc))
  | revoke p t => exact not_not_intro hscope
  | revokeOption p t => exact not_not_intro hscope

theorem Match.refuses_of_fault (h : facts.Match g) {fault : Fault} {g' : Grants}
    (hc : (change c).run g = (.error fault, g')) : facts.Refuses c := by
  cases c with
  | grant p t option => exact Privilege.scope_ne_of_check (of_grant_error hc).1
  | grantOption p t =>
    by_cases hp : (g.heldOn t).has p = true
    · have hgrant := (run_grantOption_of_held hp).symm.trans hc
      exact .inl (Privilege.scope_ne_of_check (of_grant_error hgrant).1)
    · exact .inr fun hheld => hp (h.held_iff.1 hheld)
  | revoke p t => exact Privilege.scope_ne_of_check (of_revoke_error hc).1
  | revokeOption p t => exact Privilege.scope_ne_of_check (of_revokeOption_error hc).1

/-- The grants refuse what the facts refuse. -/
theorem Match.refused_iff (h : facts.Match g) (c : Change) :
    (∃ fault, ((change c).run g).1 = .error fault) ↔ facts.Refuses c := by
  rcases g.change_cases c with ⟨changed, hrun⟩ | ⟨fault, hrun⟩
  · rw [hrun]
    exact iff_of_false nofun (h.not_refuses hrun)
  · rw [hrun]
    exact iff_of_true ⟨fault, rfl⟩ (h.refuses_of_fault hrun)

variable {q : Privilege} {t' : Target} {option o : Bool}

theorem mem_grant_iff : (q, t') ∈ (facts.carryOut (.grant p t option)).having o ↔
    (q = p ∧ t' = t ∧ (o = true → option = true)) ∨ (q, t') ∈ facts.having o := by
  cases option <;> cases o <;> simp [carryOut, having]

theorem mem_grantOption_iff : (q, t') ∈ (facts.carryOut (.grantOption p t)).having o ↔
    (q = p ∧ t' = t ∧ o = true) ∨ (q, t') ∈ facts.having o := by
  cases o <;> simp [carryOut, having]

theorem mem_revoke_iff : (q, t') ∈ (facts.carryOut (.revoke p t)).having o ↔
    ¬(q = p ∧ t' = t) ∧ (q, t') ∈ facts.having o := by
  cases o <;> simp [carryOut, having]

theorem mem_revokeOption_iff : (q, t') ∈ (facts.carryOut (.revokeOption p t)).having o ↔
    ¬(q = p ∧ t' = t ∧ o = true) ∧ (q, t') ∈ facts.having o := by
  cases o <;> simp [carryOut, having]

/-- A change of one privilege on one target is no change of any other. -/
theorem mem_carryOut_of_ne (hne : (q, t') ≠ (c.privilege, c.target)) :
    (q, t') ∈ (facts.carryOut c).having o ↔ (q, t') ∈ facts.having o := by
  rw [Ne, Prod.mk.injEq] at hne
  cases c with
  | grant p t option => exact mem_grant_iff.trans (or_iff_right fun h => hne ⟨h.1, h.2.1⟩)
  | grantOption p t => exact mem_grantOption_iff.trans (or_iff_right fun h => hne ⟨h.1, h.2.1⟩)
  | revoke p t => exact mem_revoke_iff.trans (and_iff_right hne)
  | revokeOption p t =>
    exact mem_revokeOption_iff.trans (and_iff_right fun h => hne ⟨h.1, h.2.1⟩)

theorem mem_after_of_ne (hne : (q, t') ≠ (c.privilege, c.target)) :
    (q, t') ∈ (facts.after c).having o ↔ (q, t') ∈ facts.having o := by
  rw [after]
  split
  · rfl
  · exact mem_carryOut_of_ne hne

theorem Match.carryOut (h : facts.Match g) (hs : g.Sound) {changed : Bool} {g' : Grants}
    (hg : (change c).run g = (.ok changed, g')) : (facts.carryOut c).Match g' := by
  intro q t' o
  have ha : g.Alters c.target c.effect (g', changed) := change_alters hs hg
  cases c with
  | grant p t option => rw [mem_grant_iff, h q t' o, ha.allows_grant, Change.target]
  | grantOption p t =>
    have hp : (g.heldOn t).allows p false = true := held_of_grantOption hg
    rw [mem_grantOption_iff, h q t' o, ha.allows_grant, Change.target]
    -- What becomes grantable was held before.
    cases o with
    | false => grind
    | true => simp
  | revoke p t => rw [mem_revoke_iff, h q t' o, ha.allows_revoke, Change.target]
  | revokeOption p t => rw [mem_revokeOption_iff, h q t' o, ha.allows_revokeOption, Change.target]

theorem Match.after (h : facts.Match g) (hs : g.Sound) (c : Change) :
    (facts.after c).Match (g.after c) := by
  rw [Facts.after]
  rcases g.change_cases c with ⟨changed, hrun⟩ | ⟨fault, hrun⟩
  · rw [if_neg (h.not_refuses hrun)]
    exact h.carryOut hs hrun
  · rw [if_pos (h.refuses_of_fault hrun), after_of_run hrun]
    exact h

theorem Match.afterAll (h : facts.Match g) (hs : g.Sound) (changes : List Change) :
    (changes.foldl Facts.after facts).Match (changes.foldl Grants.after g) := by
  induction changes generalizing facts g with
  | nil => exact h
  | cons c changes ih => exact ih (h.after hs c) (sound_after hs c)

end Facts

/-- After any changes, refused ones included, grants and the replayed sets of facts say the same of
every target, and so a check passes if the sets have the privilege on a target that covers the one in
question. The next change fails if the facts refuse it, and whatever comes of it, what is held or
grantable as another privilege or on another target stays. -/
theorem replays_as_facts (changes : List Change) :
    let g := changes.foldl after empty
    let facts := changes.foldl Facts.after .none
    (∀ p t option, (g.heldOn t).allows p option = true ↔ (p, t) ∈ facts.having option) ∧
    (∀ p t option, g.allows p t option = true ↔
      ∃ t', t'.covers t = true ∧ (p, t') ∈ facts.having option) ∧
    ∀ c, ((∃ fault, ((change c).run g).1 = .error fault) ↔ facts.Refuses c) ∧
      ∀ p t, (p, t) ≠ (c.privilege, c.target) → ∀ option,
        ((p, t) ∈ (facts.after c).having option ↔ (p, t) ∈ facts.having option) ∧
        ((g.after c).heldOn t).allows p option = (g.heldOn t).allows p option := by
  intro g facts
  have hsound : g.Sound := sound_afterAll sound_empty changes
  have hmatch : facts.Match g := Facts.match_none.afterAll sound_empty changes
  refine ⟨fun p t option => (hmatch p t option).symm, fun p t option => ?_, fun c => ?_⟩
  · rw [allows_iff hsound]
    exact exists_congr fun t' => and_congr_right fun _ => (hmatch p t' option).symm
  · refine ⟨hmatch.refused_iff c, fun p t hne option => ?_⟩
    have hframe : (p, t) ∈ (facts.after c).having option ↔ (p, t) ∈ facts.having option :=
      Facts.mem_after_of_ne hne
    refine ⟨hframe, ?_⟩
    rw [Bool.eq_iff_iff, ← hmatch p t option, ← hframe]
    exact (hmatch.after hsound c p t option).symm

end Grants

end Warden
