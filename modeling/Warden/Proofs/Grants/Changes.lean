import Warden.Proofs.Grants.Mutators

namespace Warden

namespace Holding

variable {h : Holding} {p : Privilege}

/-- Sound, and nothing is held that cannot be held on paths. -/
structure Pathwise (h : Holding) : Prop where
  sound : h.Sound
  scope : ∀ {p}, h.has p = true → p.scope = .path

theorem pathwise_empty : empty.Pathwise where
  sound := sound_empty
  scope hp := by simp at hp

theorem Pathwise.grant (hs : h.Pathwise) (hp : p.scope = .path) (option : Bool) :
    (h.grant p option).1.Pathwise where
  sound := hs.sound.grant p option
  scope hq := by
    rw [has_grant, Bool.or_eq_true, decide_eq_true_eq] at hq
    rcases hq with rfl | hq
    · exact hp
    · exact hs.scope hq

theorem Pathwise.revoke (hs : h.Pathwise) (p : Privilege) : (h.revoke p).1.Pathwise where
  sound := hs.sound.revoke p
  scope hq := by
    rw [has_revoke, Bool.and_eq_true] at hq
    exact hs.scope hq.2

theorem Pathwise.revokeOption (hs : h.Pathwise) (p : Privilege) :
    (h.revokeOption p).1.Pathwise where
  sound := hs.sound.revokeOption p
  scope hq := hs.scope hq

theorem Sound.allows_of_option (hs : h.Sound) (hp : h.allows p true = true) :
    h.allows p false = true := hs p hp

end Holding

namespace PathGrants

variable {gs : PathGrants} {pattern : Pattern} {p : Privilege}

def Lawful (gs : PathGrants) : Prop := ∀ g ∈ gs, g.holding.Pathwise

theorem Lawful.find? (h : gs.Lawful) {holding : Holding} (hfind : gs.find? pattern = some holding) :
    holding.Pathwise := h _ (exists_of_find? hfind)

theorem Lawful.filter (h : gs.Lawful) (test : PathGrant → Bool) : Lawful (List.filter test gs) :=
  fun g hg => h g (List.mem_filter.1 hg).1

theorem Lawful.grant (h : gs.Lawful) (hp : p.scope = .path) (option : Bool) :
    Lawful (gs.grant pattern p option).1 := by
  rw [PathGrants.grant]
  split
  · rename_i holding hfind
    exact forall_replace h ((h.find? hfind).grant hp option)
  · refine List.forall_mem_append.2 ⟨h, List.forall_mem_singleton.2 ?_⟩
    exact Holding.pathwise_empty.grant hp option

theorem Lawful.revoke (h : gs.Lawful) (pattern : Pattern) (p : Privilege) :
    Lawful (gs.revoke pattern p).1 := by
  rw [PathGrants.revoke]
  split
  · rename_i holding hfind
    have hreplaced : Lawful (gs.replace pattern (holding.revoke p).1) :=
      forall_replace h ((h.find? hfind).revoke p)
    exact hreplaced.filter _
  · exact h.filter _

theorem Lawful.revokeOption (h : gs.Lawful) (pattern : Pattern) (p : Privilege) :
    Lawful (gs.revokeOption pattern p).1 := by
  rw [PathGrants.revokeOption]
  split
  · rename_i holding hfind
    exact forall_replace h ((h.find? hfind).revokeOption p)
  · exact h

theorem Lawful.allows_of_option (h : gs.Lawful) {path : Pattern}
    (hp : gs.allows path p true = true) : gs.allows path p false = true := by
  obtain ⟨g, hg, hallows⟩ := List.any_eq_true.1 hp
  obtain ⟨hheld, hcovers⟩ := (Bool.and_eq_true _ _).mp hallows
  refine List.any_eq_true.2 ⟨g, hg, (Bool.and_eq_true _ _).mpr ⟨?_, hcovers⟩⟩
  exact (h g hg).sound.allows_of_option hheld

end PathGrants

structure DatabaseGrants.Sound (d : DatabaseGrants) : Prop where
  own : d.own.Sound
  tables : ∀ e ∈ d.tables.entries, e.2.Sound

namespace DatabaseGrants

variable {d : DatabaseGrants}

theorem sound_empty : empty.Sound where
  own := Holding.sound_empty
  tables := nofun

theorem Sound.get? (hs : d.Sound) {table : Option String} {holding : Holding}
    (hget : d.get? table = some holding) : holding.Sound := by
  cases table with
  | none =>
    obtain rfl := Option.some.inj hget
    exact hs.own
  | some table => exact KeyMap.forall_of_get? hs.tables hget

theorem Sound.put (hs : d.Sound) (table : Option String) {holding : Holding}
    (hholding : holding.Sound) : (d.put table holding).Sound := by
  cases table with
  | none => exact ⟨hholding, hs.tables⟩
  | some table => exact ⟨hs.own, KeyMap.forall_insert hs.tables hholding table⟩

theorem Sound.dropEmpty (hs : d.Sound) (table : Option String) : (d.dropEmpty table).Sound := by
  cases table with
  | none => exact hs
  | some table =>
    rw [DatabaseGrants.dropEmpty]
    split
    · exact ⟨hs.own, KeyMap.forall_erase hs.tables table⟩
    · exact hs

end DatabaseGrants

namespace ObjectGrants

variable {o : ObjectGrants} {database : String} {table : Option String} {p : Privilege}

def Lawful (o : ObjectGrants) : Prop := ∀ e ∈ o.databases.entries, e.2.Sound

theorem Lawful.getD (h : o.Lawful) (database : String) :
    ((o.databases.get? database).getD .empty).Sound := by
  cases hget : o.databases.get? database with
  | none => exact DatabaseGrants.sound_empty
  | some d => exact KeyMap.forall_of_get? h hget

theorem Lawful.get? (h : o.Lawful) {holding : Holding}
    (hget : o.get? database table = some holding) : holding.Sound := by
  obtain ⟨d, hd, hheld⟩ := Option.bind_eq_some_iff.1 hget
  have hsound : d.Sound := KeyMap.forall_of_get? h hd
  exact hsound.get? hheld

theorem Lawful.put (h : o.Lawful) {holding : Holding} (hholding : holding.Sound) :
    (o.put database table holding).Lawful :=
  KeyMap.forall_insert h ((h.getD database).put table hholding) database

theorem Lawful.prune (h : o.Lawful) (database : String) (table : Option String) :
    (o.prune database table).Lawful := by
  rw [ObjectGrants.prune]
  split
  · exact h
  · rename_i d hget
    have hdropped : (d.dropEmpty table).Sound := (KeyMap.forall_of_get? h hget).dropEmpty table
    dsimp only
    split
    · exact KeyMap.forall_erase h database
    · exact KeyMap.forall_insert h hdropped database

theorem Lawful.add (h : o.Lawful) (p : Privilege) (option : Bool) :
    (o.add database table p option).1.Lawful := by
  have hheld : ((o.get? database table).getD .empty).Sound := by
    cases hget : o.get? database table with
    | none => exact Holding.sound_empty
    | some holding => exact h.get? hget
  exact h.put (hheld.grant p option)

theorem Lawful.remove (h : o.Lawful) (p : Privilege) :
    (o.remove database table p).1.Lawful := by
  rw [ObjectGrants.remove]
  split
  · exact h.prune database table
  · rename_i holding hget
    have hput : (o.put database table (holding.revoke p).1).Lawful :=
      h.put ((h.get? hget).revoke p)
    exact hput.prune database table

theorem Lawful.removeOption (h : o.Lawful) (p : Privilege) :
    (o.removeOption database table p).1.Lawful := by
  rw [ObjectGrants.removeOption]
  split
  · exact h
  · rename_i holding hget
    exact h.put ((h.get? hget).revokeOption p)

theorem Lawful.allows_of_option (h : o.Lawful) (hp : o.allows database table p true = true) :
    o.allows database table p false = true := by
  rw [allows] at hp ⊢
  split at hp
  · cases hp
  · rename_i d hget
    have hd : d.Sound := KeyMap.forall_of_get? h hget
    rw [Bool.or_eq_true] at hp ⊢
    refine hp.imp hd.own.allows_of_option fun htable => ?_
    obtain ⟨holding, hheld, hallows⟩ := (Option.any_eq_true _ _).1 htable
    obtain ⟨name, rfl, hname⟩ := Option.bind_eq_some_iff.1 hheld
    have hsound : holding.Sound := KeyMap.forall_of_get? hd.tables hname
    exact (Option.any_eq_true _ _).2 ⟨holding, hheld, hsound.allows_of_option hallows⟩

end ObjectGrants

namespace Grants

inductive Change
  | grant (p : Privilege) (target : Target) (option : Bool)
  | grantOption (p : Privilege) (target : Target)
  | revoke (p : Privilege) (target : Target)
  | revokeOption (p : Privilege) (target : Target)
  deriving DecidableEq

namespace Change

def privilege : Change → Privilege
  | grant p .. | grantOption p _ | revoke p _ | revokeOption p _ => p

def target : Change → Target
  | grant _ target _ | grantOption _ target | revoke _ target | revokeOption _ target => target

/-- What a change that is carried out does to the holding of its target. -/
def effect : Change → Holding → Holding × Bool
  | grant p _ option => (·.grant p option)
  | grantOption p _ => (·.grant p true)
  | revoke p _ => (·.revoke p)
  | revokeOption p _ => (·.revokeOption p)

theorem sound_effect (c : Change) {h : Holding} (hs : h.Sound) : (c.effect h).1.Sound := by
  cases c with
  | grant p target option => exact hs.grant p option
  | grantOption p target => exact hs.grant p true
  | revoke p target => exact hs.revoke p
  | revokeOption p target => exact hs.revokeOption p

end Change

def change : Change → Action Grants Bool
  | .grant p target option => grant p target option
  | .grantOption p target => grantOption p target
  | .revoke p target => revoke p target
  | .revokeOption p target => revokeOption p target

def after (g : Grants) (c : Change) : Grants := ((change c).run g).2

section Carried

variable {g g' : Grants} {c : Change} {changed : Bool} {fault : Fault}

theorem after_of_run {result : Except Fault Bool} (h : (change c).run g = (result, g')) :
    g.after c = g' := congrArg Prod.snd h

theorem held_of_grantOption {p : Privilege} {t : Target}
    (h : (grantOption p t).run g = (.ok changed, g')) : (g.heldOn t).has p = true := by
  refine eq_true_of_ne_false fun hp => ?_
  obtain ⟨fault, hfault⟩ := run_grantOption_of_not_held hp
  rw [hfault] at h
  cases h

theorem grant_of_grantOption {p : Privilege} {t : Target}
    (h : (grantOption p t).run g = (.ok changed, g')) :
    (grant p t true).run g = (.ok changed, g') :=
  (run_grantOption_of_held (held_of_grantOption h)).symm.trans h

def written (g : Grants) : Change → Grants × Bool
  | .grant p t option => g.given p t option
  | .grantOption p t => g.given p t true
  | .revoke p t => g.taken p t
  | .revokeOption p t => g.optionTaken p t

/-- A change that is carried out belongs to its target, and writes there. -/
theorem of_change (h : (change c).run g = (.ok changed, g')) :
    c.privilege.scope = c.target.scope ∧ g.written c = (g', changed) := by
  cases c with
  | grant p t option => exact of_grant h
  | grantOption p t => exact of_grant (grant_of_grantOption h)
  | revoke p t => exact of_revoke h
  | revokeOption p t => exact of_revokeOption h

/-- A change that fails does so before it writes. -/
theorem of_change_error (h : (change c).run g = (.error fault, g')) : g' = g := by
  cases c with
  | grant p t option => exact (of_grant_error h).2
  | grantOption p t =>
    cases hp : (g.heldOn t).has p with
    | true => exact (of_grant_error ((run_grantOption_of_held hp).symm.trans h)).2
    | false =>
      obtain ⟨fault', hfault⟩ := run_grantOption_of_not_held hp
      exact (Prod.mk.inj (h.symm.trans hfault)).2
  | revoke p t => exact (of_revoke_error h).2
  | revokeOption p t => exact (of_revokeOption_error h).2

theorem change_cases (g : Grants) (c : Change) :
    (∃ changed, (change c).run g = (.ok changed, g.after c)) ∨
      ∃ fault, (change c).run g = (.error fault, g) := by
  rcases hrun : (change c).run g with ⟨fault | changed, g'⟩
  · exact .inr ⟨fault, by rw [of_change_error hrun]⟩
  · exact .inl ⟨changed, by rw [after_of_run hrun]⟩

/-- What holds of the grants and of what a change writes holds after the change. -/
theorem after_induction {P : Grants → Prop} (hg : P g)
    (hwritten : c.privilege.scope = c.target.scope → P (g.written c).1) : P (g.after c) := by
  rcases g.change_cases c with ⟨changed, hrun⟩ | ⟨fault, hrun⟩
  · obtain ⟨hscope, hw⟩ := of_change hrun
    have hafter : (g.written c).1 = g.after c := congrArg Prod.fst hw
    exact hafter ▸ hwritten hscope
  · rwa [after_of_run hrun]

theorem written_alters (hs : g.Sound) (c : Change) :
    g.Alters c.target c.effect (g.written c) := by
  cases c with
  | grant p t option => exact g.given_alters p t option
  | grantOption p t => exact g.given_alters p t true
  | revoke p t => exact taken_alters hs p t
  | revokeOption p t => exact g.optionTaken_alters p t

/-- A change that is carried out alters the holding of its target and no other. -/
theorem change_alters (hs : g.Sound) (h : (change c).run g = (.ok changed, g')) :
    g.Alters c.target c.effect (g', changed) := (of_change h).2 ▸ written_alters hs c

theorem sound_after (hs : g.Sound) (c : Change) : (g.after c).Sound :=
  after_induction hs fun _ => (written_alters hs c).sound (fun _ hx => c.sound_effect hx) hs

theorem sound_afterAll (hs : g.Sound) (changes : List Change) : (changes.foldl after g).Sound := by
  induction changes generalizing g with
  | nil => exact hs
  | cons c changes ih => exact ih (sound_after hs c)

end Carried

/-- No grant option goes beyond what is held beside it, and on paths is held what belongs there. -/
structure Lawful (g : Grants) : Prop where
  system : g.system.Sound
  paths : g.paths.Lawful
  objects : g.objects.Lawful

variable {g : Grants} {p : Privilege} {target : Target}

theorem lawful_empty : empty.Lawful where
  system := Holding.sound_empty
  paths := nofun
  objects := nofun

theorem Lawful.given (h : g.Lawful) (hscope : p.scope = target.scope) (option : Bool) :
    (g.given p target option).1.Lawful := by
  cases target with
  | system => exact ⟨h.system.grant p option, h.paths, h.objects⟩
  | path pattern => exact ⟨h.system, h.paths.grant hscope option, h.objects⟩
  | object database table => exact ⟨h.system, h.paths, h.objects.add p option⟩

theorem Lawful.taken (h : g.Lawful) (p : Privilege) (target : Target) :
    (g.taken p target).1.Lawful := by
  cases target with
  | system => exact ⟨h.system.revoke p, h.paths, h.objects⟩
  | path pattern => exact ⟨h.system, h.paths.revoke pattern p, h.objects⟩
  | object database table => exact ⟨h.system, h.paths, h.objects.remove p⟩

theorem Lawful.optionTaken (h : g.Lawful) (p : Privilege) (target : Target) :
    (g.optionTaken p target).1.Lawful := by
  cases target with
  | system => exact ⟨h.system.revokeOption p, h.paths, h.objects⟩
  | path pattern => exact ⟨h.system, h.paths.revokeOption pattern p, h.objects⟩
  | object database table => exact ⟨h.system, h.paths, h.objects.removeOption p⟩

/-- Whatever becomes of a change, the grants stay lawful. -/
theorem Lawful.after (h : g.Lawful) (c : Change) : (g.after c).Lawful := by
  refine after_induction h fun hscope => ?_
  cases c with
  | grant p target option => exact h.given hscope option
  | grantOption p target => exact h.given hscope true
  | revoke p target => exact h.taken p target
  | revokeOption p target => exact h.optionTaken p target

theorem Lawful.afterAll (h : g.Lawful) (changes : List Change) :
    (changes.foldl Grants.after g).Lawful := by
  induction changes generalizing g with
  | nil => exact h
  | cons c changes ih => exact ih (h.after c)

/-- Who may grant a privilege holds it. -/
theorem Lawful.allows_of_option (h : g.Lawful) (hp : g.allows p target true = true) :
    g.allows p target false = true := by
  cases target with
  | system => exact h.system.allows_of_option hp
  | path pattern => exact h.paths.allows_of_option hp
  | object database table => exact h.objects.allows_of_option hp

end Grants

end Warden
