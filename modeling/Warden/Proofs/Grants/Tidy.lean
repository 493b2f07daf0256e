import Warden.Authority.Basic
import Warden.Proofs.Grants.Changes
import Warden.Proofs.KeyMap

namespace Warden

namespace Holding

variable {h : Holding} {p : Privilege} {option : Bool}

def Filled (h : Holding) : Prop := h.isEmpty = false

theorem filled_grant (h : Holding) (p : Privilege) (option : Bool) :
    (h.grant p option).1.Filled := by
  refine Bool.eq_false_iff.2 fun he => ?_
  have hp : (h.grant p option).1.has p = false := PrivilegeSet.contains_of_isEmpty he p
  rw [has_grant] at hp
  simp at hp

theorem Filled.revokeOption (hf : h.Filled) (p : Privilege) : (h.revokeOption p).1.Filled := hf

theorem changed_empty_grant (p : Privilege) (option : Bool) :
    (empty.grant p option).2 = true := by simp [grant]

/-- A grant that leaves the holding as it was is reported as no change. -/
theorem silent_grant (hsame : (h.grant p option).1 = h) : (h.grant p option).2 = false := by
  have hp : h.has p = true := by
    rw [← hsame, has_grant]
    simp
  have hoption : option = true → h.hasOption p = true := by
    rintro rfl
    rw [← hsame, hasOption_grant]
    simp
  simpa [grant, hp] using hoption

theorem silent_revoke (hsame : (h.revoke p).1 = h) : (h.revoke p).2 = false := by
  change h.has p = false
  rw [← hsame, has_revoke]
  simp

theorem silent_revokeOption (hsame : (h.revokeOption p).1 = h) :
    (h.revokeOption p).2 = false := by
  change h.hasOption p = false
  rw [← hsame, hasOption_revokeOption]
  simp

end Holding

namespace PathGrants

variable {gs : PathGrants} {pattern : Pattern} {holding : Holding} {p : Privilege} {option : Bool}

def Filled (gs : PathGrants) : Prop := ∀ g ∈ gs, g.holding.Filled

theorem filled_filter (gs : PathGrants) : Filled (List.filter (!·.isEmpty) gs) := by
  intro g hg
  have hsome : (!g.isEmpty) = true := (List.mem_filter.1 hg).2
  rw [Holding.Filled]
  simpa [PathGrant.isEmpty] using hsome

theorem Filled.filter_eq_self (h : gs.Filled) : List.filter (!·.isEmpty) gs = gs := by
  refine List.filter_eq_self.2 fun g hg => ?_
  have hg : g.holding.isEmpty = false := h g hg
  rw [PathGrant.isEmpty, hg]
  rfl

theorem Filled.grant (h : gs.Filled) (pattern : Pattern) (p : Privilege) (option : Bool) :
    Filled (gs.grant pattern p option).1 := by
  rw [PathGrants.grant]
  split
  · exact forall_replace h (Holding.filled_grant _ p option)
  · refine List.forall_mem_append.2 ⟨h, List.forall_mem_singleton.2 ?_⟩
    exact Holding.filled_grant _ p option

theorem filled_revoke (gs : PathGrants) (pattern : Pattern) (p : Privilege) :
    Filled (gs.revoke pattern p).1 := by
  rw [revoke]
  split <;> exact filled_filter _

theorem Filled.revokeOption (h : gs.Filled) (pattern : Pattern) (p : Privilege) :
    Filled (gs.revokeOption pattern p).1 := by
  rw [PathGrants.revokeOption]
  split
  · rename_i holding hfind
    have hheld : holding.Filled := h _ (exists_of_find? hfind)
    exact forall_replace h (hheld.revokeOption p)
  · exact h

theorem grant_unchanged (hno : (gs.grant pattern p option).2 = false) :
    (gs.grant pattern p option).1 = gs := by
  rw [grant] at hno ⊢
  split at hno
  · rename_i holding hfind
    have hsame : (holding.grant p option).1 = holding := Holding.grant_unchanged hno
    simp only [hsame]
    exact replace_eq_self hfind
  · exact absurd (Holding.changed_empty_grant p option) (Bool.eq_false_iff.1 hno)

theorem Filled.revoke_unchanged (h : gs.Filled) (hs : (heldOn gs pattern).Sound)
    (hno : (gs.revoke pattern p).2 = false) : (gs.revoke pattern p).1 = gs := by
  rw [PathGrants.revoke] at hno ⊢
  split at hno
  · rename_i holding hfind
    rw [heldOn_of_find? hfind] at hs
    have hsame : (holding.revoke p).1 = holding := hs.revoke_unchanged hno
    simp only [hsame, replace_eq_self hfind]
    exact h.filter_eq_self
  · rename_i hfind
    dsimp only
    exact h.filter_eq_self

theorem revokeOption_unchanged (hno : (gs.revokeOption pattern p).2 = false) :
    (gs.revokeOption pattern p).1 = gs := by
  rw [revokeOption] at hno ⊢
  split at hno
  · rename_i holding hfind
    have hsame : (holding.revokeOption p).1 = holding := Holding.revokeOption_unchanged hno
    simp only [hsame]
    exact replace_eq_self hfind
  · rename_i hfind
    dsimp only

end PathGrants

structure DatabaseGrants.Filled (d : DatabaseGrants) : Prop where
  nonempty : d.isEmpty = false
  tables : ∀ e ∈ d.tables.entries, e.2.Filled

namespace DatabaseGrants

variable {d : DatabaseGrants} {table : Option String} {holding : Holding}

theorem isEmpty_put (d : DatabaseGrants) (table : Option String) (hholding : holding.Filled) :
    (d.put table holding).isEmpty = false := by
  cases table with
  | none =>
    have hown : holding.isEmpty = false := hholding
    simp [put, isEmpty, hown]
  | some table => simp [put, isEmpty, KeyMap.isEmpty_insert]

/-- A holding gives way to another that holds something if it did. -/
theorem Filled.put (h : d.Filled) {held : Holding} (hget : d.get? table = some held)
    (hsame : holding.isEmpty = held.isEmpty) : (d.put table holding).Filled := by
  cases table with
  | none =>
    obtain rfl := Option.some.inj hget
    refine ⟨?_, h.tables⟩
    rw [DatabaseGrants.put, isEmpty, hsame]
    exact h.nonempty
  | some table =>
    have hheld : held.Filled := KeyMap.forall_of_get? h.tables hget
    have hholding : holding.Filled := hsame.trans hheld
    exact ⟨isEmpty_put d (some table) hholding,
      KeyMap.forall_insert h.tables hholding table⟩

theorem dropEmpty_eq_self (h : ∀ e ∈ d.tables.entries, e.2.Filled)
    (table : Option String) : d.dropEmpty table = d := by
  cases table with
  | none => rfl
  | some table =>
    rw [dropEmpty, if_neg]
    intro hany
    obtain ⟨holding, hget, he⟩ := (Option.any_eq_true _ _).1 hany
    have hfilled : holding.Filled := KeyMap.forall_of_get? h hget
    exact Bool.eq_false_iff.1 hfilled he

/-- What was put on a table goes again if it holds nothing. -/
theorem tables_dropEmpty_put (h : ∀ e ∈ d.tables.entries, e.2.Filled)
    (table : Option String) (holding : Holding) :
    ∀ e ∈ ((d.put table holding).dropEmpty table).tables.entries, e.2.Filled := by
  cases table with
  | none => exact h
  | some table =>
    have hget : (d.tables.insert table holding).get? table = some holding := by
      rw [KeyMap.get?_insert, if_pos rfl]
    rw [put, dropEmpty, hget, Option.any_some]
    split
    · rw [KeyMap.erase_insert]
      exact KeyMap.forall_erase h table
    · rename_i he
      exact KeyMap.forall_insert h (Bool.eq_false_iff.2 he) table

end DatabaseGrants

namespace ObjectGrants

variable {o : ObjectGrants} {database : String} {table : Option String} {holding : Holding}
  {p : Privilege} {option : Bool}

def Filled (o : ObjectGrants) : Prop := ∀ e ∈ o.databases.entries, e.2.Filled

theorem filled_empty : empty.Filled := nofun

theorem Filled.tables (h : o.Filled) (database : String) :
    ∀ e ∈ ((o.databases.get? database).getD .empty).tables.entries, e.2.Filled := by
  cases hget : o.databases.get? database with
  | none => exact nofun
  | some d =>
    have hd : d.Filled := KeyMap.forall_of_get? h hget
    exact hd.tables

theorem Filled.put (h : o.Filled) (database : String) (table : Option String)
    (hholding : holding.Filled) : (o.put database table holding).Filled := by
  refine KeyMap.forall_insert h ⟨DatabaseGrants.isEmpty_put _ table hholding, ?_⟩ database
  cases table with
  | none => exact h.tables database
  | some table => exact KeyMap.forall_insert (h.tables database) hholding table

/-- Whatever is put, pruning leaves nothing empty behind. -/
theorem Filled.prune_put (h : o.Filled) (database : String) (table : Option String)
    (holding : Holding) : ((o.put database table holding).prune database table).Filled := by
  have htables := DatabaseGrants.tables_dropEmpty_put (h.tables database) table holding
  have hget : (o.put database table holding).databases.get? database =
      some (((o.databases.get? database).getD .empty).put table holding) := by
    rw [ObjectGrants.put, KeyMap.get?_insert, if_pos rfl]
  rw [ObjectGrants.prune, hget]
  dsimp only
  split
  · rw [ObjectGrants.put, KeyMap.erase_insert]
    exact KeyMap.forall_erase h database
  · rename_i hsome
    rw [ObjectGrants.put, KeyMap.insert_insert]
    exact KeyMap.forall_insert h ⟨Bool.eq_false_iff.2 hsome, htables⟩ database

theorem Filled.prune_eq_self (h : o.Filled) (database : String) (table : Option String) :
    o.prune database table = o := by
  rw [prune]
  cases hget : o.databases.get? database with
  | none => rfl
  | some d =>
    have hd : d.Filled := KeyMap.forall_of_get? h hget
    dsimp only
    rw [DatabaseGrants.dropEmpty_eq_self hd.tables, hd.nonempty, KeyMap.insert_eq_self hget]
    rfl

theorem Filled.add (h : o.Filled) (database : String) (table : Option String) (p : Privilege)
    (option : Bool) : (o.add database table p option).1.Filled :=
  h.put database table (Holding.filled_grant _ p option)

theorem Filled.remove (h : o.Filled) (database : String) (table : Option String)
    (p : Privilege) : (o.remove database table p).1.Filled := by
  rw [ObjectGrants.remove]
  split
  · rw [h.prune_eq_self]
    exact h
  · exact h.prune_put database table _

theorem Filled.removeOption (h : o.Filled) (database : String) (table : Option String)
    (p : Privilege) : (o.removeOption database table p).1.Filled := by
  rw [ObjectGrants.removeOption]
  split
  · exact h
  · rename_i holding hget
    obtain ⟨d, hd, hheld⟩ := Option.bind_eq_some_iff.1 hget
    have hfilled : d.Filled := KeyMap.forall_of_get? h hd
    dsimp only
    have hput : (d.put table (holding.revokeOption p).1).Filled := hfilled.put hheld rfl
    rw [ObjectGrants.put, hd]
    exact KeyMap.forall_insert h hput database

theorem add_unchanged (hno : (o.add database table p option).2 = false) :
    (o.add database table p option).1 = o := by
  cases hget : o.get? database table with
  | none =>
    rw [add, hget] at hno
    exact absurd (Holding.changed_empty_grant p option) (Bool.eq_false_iff.1 hno)
  | some holding =>
    rw [add, hget] at hno ⊢
    have hsame : (holding.grant p option).1 = holding := Holding.grant_unchanged hno
    simp only [Option.getD_some, hsame]
    exact put_eq_self hget

theorem Filled.remove_unchanged (h : o.Filled) (hs : (o.heldOn database table).Sound)
    (hno : (o.remove database table p).2 = false) : (o.remove database table p).1 = o := by
  rw [ObjectGrants.remove] at hno ⊢
  split at hno
  · rename_i hget
    dsimp only
    exact h.prune_eq_self database table
  · rename_i holding hget
    rw [heldOn_of_get? hget] at hs
    have hsame : (holding.revoke p).1 = holding := hs.revoke_unchanged hno
    simp only [hsame, put_eq_self hget]
    exact h.prune_eq_self database table

theorem removeOption_unchanged (hno : (o.removeOption database table p).2 = false) :
    (o.removeOption database table p).1 = o := by
  rw [removeOption] at hno ⊢
  split at hno
  · rename_i hget
    dsimp only
  · rename_i holding hget
    have hsame : (holding.revokeOption p).1 = holding := Holding.revokeOption_unchanged hno
    simp only [hsame]
    exact put_eq_self hget

end ObjectGrants

namespace Grants

/-- Nothing is kept that holds nothing. -/
structure Filled (g : Grants) : Prop where
  paths : g.paths.Filled
  objects : g.objects.Filled

variable {g g' : Grants} {p : Privilege} {target : Target} {option changed : Bool} {c : Change}

theorem filled_empty : empty.Filled where
  paths := nofun
  objects := ObjectGrants.filled_empty

theorem Filled.given (h : g.Filled) (p : Privilege) (target : Target) (option : Bool) :
    (g.given p target option).1.Filled := by
  cases target with
  | system => exact ⟨h.paths, h.objects⟩
  | path pattern => exact ⟨h.paths.grant pattern p option, h.objects⟩
  | object database table => exact ⟨h.paths, h.objects.add database table p option⟩

theorem Filled.taken (h : g.Filled) (p : Privilege) (target : Target) :
    (g.taken p target).1.Filled := by
  cases target with
  | system => exact ⟨h.paths, h.objects⟩
  | path pattern => exact ⟨PathGrants.filled_revoke g.paths pattern p, h.objects⟩
  | object database table => exact ⟨h.paths, h.objects.remove database table p⟩

theorem Filled.optionTaken (h : g.Filled) (p : Privilege) (target : Target) :
    (g.optionTaken p target).1.Filled := by
  cases target with
  | system => exact ⟨h.paths, h.objects⟩
  | path pattern => exact ⟨h.paths.revokeOption pattern p, h.objects⟩
  | object database table => exact ⟨h.paths, h.objects.removeOption database table p⟩

theorem Filled.written (h : g.Filled) (c : Change) : (g.written c).1.Filled := by
  cases c with
  | grant p target option => exact h.given p target option
  | grantOption p target => exact h.given p target true
  | revoke p target => exact h.taken p target
  | revokeOption p target => exact h.optionTaken p target

theorem given_unchanged (hno : (g.given p target option).2 = false) :
    (g.given p target option).1 = g := by
  cases target with
  | system => rw [given, withSystem, Holding.grant_unchanged hno]
  | path pattern => rw [given, withPaths, PathGrants.grant_unchanged hno]
  | object database table => rw [given, withObjects, ObjectGrants.add_unchanged hno]

theorem Filled.taken_unchanged (h : g.Filled) (hs : g.Sound)
    (hno : (g.taken p target).2 = false) : (g.taken p target).1 = g := by
  have hheld := hs.holding target
  cases target with
  | system =>
    have hsystem : g.system.Sound := hheld
    rw [Grants.taken, withSystem, hsystem.revoke_unchanged hno]
  | path pattern => rw [Grants.taken, withPaths, h.paths.revoke_unchanged hheld hno]
  | object database table =>
    rw [Grants.taken, withObjects, h.objects.remove_unchanged hheld hno]

theorem optionTaken_unchanged (hno : (g.optionTaken p target).2 = false) :
    (g.optionTaken p target).1 = g := by
  cases target with
  | system => rw [optionTaken, withSystem, Holding.revokeOption_unchanged hno]
  | path pattern => rw [optionTaken, withPaths, PathGrants.revokeOption_unchanged hno]
  | object database table => rw [optionTaken, withObjects, ObjectGrants.removeOption_unchanged hno]

theorem Filled.written_unchanged (h : g.Filled) (hs : g.Sound) (hno : (g.written c).2 = false) :
    (g.written c).1 = g := by
  cases c with
  | grant p target option => exact given_unchanged hno
  | grantOption p target => exact given_unchanged hno
  | revoke p target => exact h.taken_unchanged hs hno
  | revokeOption p target => exact optionTaken_unchanged hno

/-- A change that leaves its target's holding as it was is reported as none. -/
theorem Change.silent_effect (c : Change) {h : Holding} (hsame : (c.effect h).1 = h) :
    (c.effect h).2 = false := by
  cases c with
  | grant p target option => exact Holding.silent_grant hsame
  | grantOption p target => exact Holding.silent_grant hsame
  | revoke p target => exact Holding.silent_revoke hsame
  | revokeOption p target => exact Holding.silent_revokeOption hsame

theorem allows_effect {c : Change} {h : Holding} {option : Bool}
    (hp : (c.effect h).1.allows p option = true) :
    h.allows p option = true ∨ p = c.privilege := by
  cases c with
  | grant q target o =>
    rw [Change.effect, Holding.allows_grant] at hp
    grind [Change.privilege]
  | grantOption q target =>
    rw [Change.effect, Holding.allows_grant] at hp
    grind [Change.privilege]
  | revoke q target =>
    rw [Change.effect, Holding.allows_revoke] at hp
    grind
  | revokeOption q target =>
    rw [Change.effect, Holding.allows_revokeOption] at hp
    grind

/-- Nothing is kept twice, in vain or where it does not belong. -/
structure Tidy (g : Grants) : Prop where
  sound : g.Sound
  filled : g.Filled
  scope : ∀ t p option, (g.heldOn t).allows p option = true → p.scope = t.scope

theorem tidy_empty : empty.Tidy where
  sound := sound_empty
  filled := filled_empty
  scope t p option hp := by
    rw [heldOn_empty, Holding.allows_empty] at hp
    cases hp

theorem Tidy.after (h : g.Tidy) (c : Change) : (g.after c).Tidy := by
  refine after_induction h fun hscope => ?_
  have ha : g.Alters c.target c.effect (g.written c) := written_alters h.sound c
  refine ⟨ha.sound (fun _ hx => c.sound_effect hx) h.sound, h.filled.written c, ?_⟩
  intro t p option hp
  rw [ha.heldOn] at hp
  split at hp
  · rename_i ht
    rcases allows_effect hp with hp | rfl
    · exact ht ▸ h.scope _ p option hp
    · exact ht ▸ hscope
  · exact h.scope t p option hp

theorem Tidy.afterAll (h : g.Tidy) (changes : List Change) :
    (changes.foldl Grants.after g).Tidy := by
  induction changes generalizing g with
  | nil => exact h
  | cons c changes ih => exact ih (h.after c)

/-- What a change reports is whether it changed anything. -/
theorem Tidy.changed_iff (h : g.Tidy) (hg : (change c).run g = (.ok changed, g')) :
    changed = true ↔ g' ≠ g := by
  constructor
  · rintro rfl rfl
    have ha := change_alters h.sound hg
    have hheld := ha.heldOn c.target
    rw [if_pos rfl] at hheld
    have hchanged := ha.changed
    rw [c.silent_effect hheld.symm] at hchanged
    cases hchanged
  · intro hne
    refine eq_true_of_ne_false fun hno => hne ?_
    have hw : g.written c = (g', changed) := (of_change hg).2
    have hsame := h.filled.written_unchanged h.sound ((congrArg Prod.snd hw).trans hno)
    exact (congrArg Prod.fst hw).symm.trans hsame

def places (g : Grants) : List (Target × Holding) :=
  (.system, g.system) :: (g.paths.map fun e => (.path e.pattern, e.holding)) ++
    g.objects.databases.entries.flatMap fun d => (.object d.1 none, d.2.own) ::
      d.2.tables.entries.map fun t => (.object d.1 (some t.1), t.2)

theorem heldOn_of_mem_places (hs : g.Sound) {x : Target × Holding} (hx : x ∈ g.places) :
    g.heldOn x.1 = x.2 := by
  simp only [places, List.cons_append, List.mem_cons, List.mem_append, List.mem_map,
    List.mem_flatMap] at hx
  rcases hx with rfl | ⟨e, he, rfl⟩ | ⟨d, hd, rfl | ⟨t, ht, rfl⟩⟩
  · rfl
  · exact PathGrants.heldOn_of_find? (PathGrants.find?_of_mem hs.distinct he)
  · have hget : g.objects.get? d.1 none = some d.2.own := by
      rw [ObjectGrants.get?, KeyMap.get?_of_mem hd]
      rfl
    exact ObjectGrants.heldOn_of_get? hget
  · have hget : g.objects.get? d.1 (some t.1) = some t.2 := by
      rw [ObjectGrants.get?, KeyMap.get?_of_mem hd]
      exact KeyMap.get?_of_mem ht
    exact ObjectGrants.heldOn_of_get? hget

end Grants

namespace Authority

open Warden.Action

variable {σ : Type} {a : Authority σ} {s : σ}

/-- Nothing is written unless a user was loaded and changed. -/
theorem state_updateUser {username : String} {mutate : Action User Bool}
    (h : ∀ u, a.backend.users.load username s = .ok (some u) → (mutate.run u).1 ≠ .ok true) :
    ((a.updateUser username mutate).run s).2 = s := by
  rw [updateUser, user?, run_bind, run_look]
  cases hload : a.backend.users.load username s with
  | error fault => rfl
  | ok found =>
    cases found with
    | none => rfl
    | some u =>
      have hu := h u hload
      rcases hrun : mutate.run u with ⟨fault | changed, u'⟩
      · simp only [hrun, run_bind, run_ofExcept]
      · cases changed with
        | false => simp only [hrun, run_bind, run_ofExcept, Bool.false_eq_true, if_false, run_pure]
        | true => exact absurd (congrArg Prod.fst hrun) hu

theorem state_updateRole {rolename : String} {mutate : Action Role Bool}
    (h : ∀ r, a.backend.roles.load rolename s = .ok (some r) → (mutate.run r).1 ≠ .ok true) :
    ((a.updateRole rolename mutate).run s).2 = s := by
  rw [updateRole, role?, run_bind, run_look]
  cases hload : a.backend.roles.load rolename s with
  | error fault => rfl
  | ok found =>
    cases found with
    | none => rfl
    | some r =>
      have hr := h r hload
      rcases hrun : mutate.run r with ⟨fault | changed, r'⟩
      · simp only [hrun, run_bind, run_ofExcept]
      · cases changed with
        | false => simp only [hrun, run_bind, run_ofExcept, Bool.false_eq_true, if_false, run_pure]
        | true => exact absurd (congrArg Prod.fst hrun) hr

end Authority

namespace Grants

/-- After any changes, refused ones included, grants are in good order, and the next change is carried
out or fails. Carried out, it reports a change exactly if the grants are not what they were; a failure
comes before anything is written. Over any backend, a user or a role is written only on such a report. -/
theorem tidy_through_changes (changes : List Change) :
    let g := changes.foldl after empty
    ((g.paths.map PathGrant.pattern).Nodup ∧ g.paths.Filled ∧ g.objects.Filled ∧
      ∀ x ∈ g.places, ∀ p option, x.2.allows p option = true → p.scope = x.1.scope) ∧
    (∀ c, (∃ g' changed, (change c).run g = (.ok changed, g') ∧ (changed = true ↔ g' ≠ g)) ∨
      ∃ fault, (change c).run g = (.error fault, g)) ∧
    ∀ {σ : Type} (a : Authority σ) (s : σ) (name : String),
      (∀ mutate : Action User Bool,
        (∀ u, a.backend.users.load name s = .ok (some u) → (mutate.run u).1 ≠ .ok true) →
          ((a.updateUser name mutate).run s).2 = s) ∧
      ∀ mutate : Action Role Bool,
        (∀ r, a.backend.roles.load name s = .ok (some r) → (mutate.run r).1 ≠ .ok true) →
          ((a.updateRole name mutate).run s).2 = s := by
  intro g
  have htidy : g.Tidy := tidy_empty.afterAll changes
  refine ⟨⟨htidy.sound.distinct, htidy.filled.paths, htidy.filled.objects, ?_⟩, fun c => ?_, ?_⟩
  · intro x hx p option hp
    exact htidy.scope x.1 p option (heldOn_of_mem_places htidy.sound hx ▸ hp)
  · refine (g.change_cases c).imp_left ?_
    rintro ⟨changed, hrun⟩
    exact ⟨_, changed, hrun, htidy.changed_iff hrun⟩
  · exact fun a s name => ⟨fun _ => Authority.state_updateUser, fun _ => Authority.state_updateRole⟩

end Grants

end Warden
