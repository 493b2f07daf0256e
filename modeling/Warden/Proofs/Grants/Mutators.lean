import Warden.Proofs.Grants.Facts

namespace Warden

open Action

namespace PathGrants

variable {gs : PathGrants} {pattern : Pattern} {p : Privilege}

theorem run_grantOption_of_held (hp : (gs.heldOn pattern).has p = true) :
    (grantOption pattern p).run gs =
      (.ok (gs.grant pattern p true).2, (gs.grant pattern p true).1) := by
  rw [grantOption, run_withinSome]
  cases hfind : gs.find? pattern with
  | none => simp [heldOn_of_none hfind] at hp
  | some holding =>
    rw [heldOn_of_find? hfind] at hp
    rw [grant, hfind]
    dsimp only
    rw [Holding.run_grantOption_of_held hp]

/-- The entry that is written back after a failure is the one that was read. -/
theorem run_grantOption_of_not_held (hp : (gs.heldOn pattern).has p = false) :
    ∃ fault, (grantOption pattern p).run gs = (.error fault, gs) := by
  rw [grantOption, run_withinSome]
  cases hfind : gs.find? pattern with
  | none => exact ⟨_, rfl⟩
  | some holding =>
    rw [heldOn_of_find? hfind] at hp
    dsimp only
    rw [Holding.run_grantOption_of_not_held hp, replace_eq_self hfind]
    exact ⟨_, rfl⟩

end PathGrants

namespace ObjectGrants

variable {o : ObjectGrants} {database : String} {table : Option String} {p : Privilege}

theorem run_grantOption_of_held (hcheck : p.check .object = .ok ())
    (hp : (o.heldOn database table).has p = true) : (grantOption database table p).run o =
      (.ok (o.add database table p true).2, (o.add database table p true).1) := by
  rw [grantOption, hcheck, run_bind, run_ofExcept]
  dsimp only
  rw [run_withinSome]
  cases hget : o.get? database table with
  | none => simp [heldOn_of_none hget] at hp
  | some holding =>
    rw [heldOn_of_get? hget] at hp
    rw [add, hget]
    dsimp only
    rw [Holding.run_grantOption_of_held hp]
    rfl

theorem run_grantOption_of_not_held (hp : (o.heldOn database table).has p = false) :
    ∃ fault, (grantOption database table p).run o = (.error fault, o) := by
  rw [grantOption, run_bind, run_ofExcept]
  cases p.check .object with
  | error fault => exact ⟨fault, rfl⟩
  | ok =>
    dsimp only
    rw [run_withinSome]
    cases hget : o.get? database table with
    | none => exact ⟨_, rfl⟩
    | some holding =>
      rw [heldOn_of_get? hget] at hp
      dsimp only
      rw [Holding.run_grantOption_of_not_held hp, put_eq_self hget]
      exact ⟨_, rfl⟩

end ObjectGrants

namespace Grants

def withSystem (g : Grants) (change : Holding × Bool) : Grants × Bool :=
  ({ g with system := change.1 }, change.2)

def withPaths (g : Grants) (change : PathGrants × Bool) : Grants × Bool :=
  ({ g with paths := change.1 }, change.2)

def withObjects (g : Grants) (change : ObjectGrants × Bool) : Grants × Bool :=
  ({ g with objects := change.1 }, change.2)

/-- What a grant writes, once its privilege has passed. -/
def given (g : Grants) (p : Privilege) (target : Target) (option : Bool) : Grants × Bool :=
  match target with
  | .system => g.withSystem (g.system.grant p option)
  | .path pattern => g.withPaths (g.paths.grant pattern p option)
  | .object database table => g.withObjects (g.objects.add database table p option)

def taken (g : Grants) (p : Privilege) (target : Target) : Grants × Bool :=
  match target with
  | .system => g.withSystem (g.system.revoke p)
  | .path pattern => g.withPaths (g.paths.revoke pattern p)
  | .object database table => g.withObjects (g.objects.remove database table p)

def optionTaken (g : Grants) (p : Privilege) (target : Target) : Grants × Bool :=
  match target with
  | .system => g.withSystem (g.system.revokeOption p)
  | .path pattern => g.withPaths (g.paths.revokeOption pattern p)
  | .object database table => g.withObjects (g.objects.removeOption database table p)

variable {g g' : Grants} {p : Privilege} {t : Target} {option changed : Bool} {fault : Fault}

theorem run_grant (g : Grants) (p : Privilege) (t : Target) (option : Bool) :
    (grant p t option).run g = (checked (p.check t.scope) (·.given p t option)).run g := by
  refine run_check_bind fun hcheck => ?_
  cases t with
  | system => rfl
  | path pattern => rfl
  | object database table =>
    -- The privilege is checked once more with the objects, and passes as it did before.
    have hobject : p.check .object = .ok () := hcheck
    change (inObjects _).run g = _
    rw [inObjects, run_within, ObjectGrants.grant, run_checked_ok hobject]
    rfl

theorem run_revoke (g : Grants) (p : Privilege) (t : Target) :
    (revoke p t).run g = (checked (p.check t.scope) (·.taken p t)).run g := by
  refine run_check_bind fun hcheck => ?_
  cases t with
  | system => rfl
  | path pattern => rfl
  | object database table =>
    have hobject : p.check .object = .ok () := hcheck
    change (inObjects _).run g = _
    rw [inObjects, run_within, ObjectGrants.revoke, run_checked_ok hobject]
    rfl

theorem run_revokeOption (g : Grants) (p : Privilege) (t : Target) :
    (revokeOption p t).run g = (checked (p.check t.scope) (·.optionTaken p t)).run g := by
  refine run_check_bind fun hcheck => ?_
  cases t with
  | system => rfl
  | path pattern => rfl
  | object database table =>
    have hobject : p.check .object = .ok () := hcheck
    change (inObjects _).run g = _
    rw [inObjects, run_within, ObjectGrants.revokeOption, run_checked_ok hobject]
    rfl

theorem run_grant_of_scope (h : p.scope = t.scope) : (grant p t option).run g =
    (.ok (g.given p t option).2, (g.given p t option).1) := by
  rw [run_grant, run_checked_ok (Privilege.check_eq_ok h)]

theorem run_revoke_of_scope (h : p.scope = t.scope) :
    (revoke p t).run g = (.ok (g.taken p t).2, (g.taken p t).1) := by
  rw [run_revoke, run_checked_ok (Privilege.check_eq_ok h)]

/-- One holding is changed by `f`, and nothing else. -/
structure Alters (g : Grants) (t : Target) (f : Holding → Holding × Bool)
    (change : Grants × Bool) : Prop where
  heldOn : ∀ t', change.1.heldOn t' = if t' = t then (f (g.heldOn t)).1 else g.heldOn t'
  changed : change.2 = (f (g.heldOn t)).2
  distinct : g.paths.Distinct → change.1.paths.Distinct

theorem Alters.sound {g : Grants} {t : Target} {f : Holding → Holding × Bool}
    {change : Grants × Bool} (h : g.Alters t f change) (hf : ∀ x : Holding, x.Sound → (f x).1.Sound)
    (hs : g.Sound) : change.1.Sound where
  distinct := h.distinct hs.distinct
  holding t' := by
    rw [h.heldOn]
    split
    · exact hf _ (hs.holding t)
    · exact hs.holding t'

/-- Where the holding stays, all holdings stay. -/
theorem Alters.same {g : Grants} {t : Target} {f : Holding → Holding × Bool}
    {change : Grants × Bool} (h : g.Alters t f change)
    (hf : (f (g.heldOn t)).2 = false → (f (g.heldOn t)).1 = g.heldOn t) (hno : change.2 = false)
    (t' : Target) : change.1.heldOn t' = g.heldOn t' := by
  rw [h.heldOn]
  split
  · rename_i ht
    rw [ht, hf (h.changed ▸ hno)]
  · rfl

section AllowsAltered

variable {g : Grants} {t : Target} {p : Privilege} {change : Grants × Bool}

theorem Alters.allows_grant {option : Bool} (h : g.Alters t (·.grant p option) change)
    (q : Privilege) (t' : Target) (o : Bool) : (change.1.heldOn t').allows q o = true ↔
      (q = p ∧ t' = t ∧ (o = true → option = true)) ∨ (g.heldOn t').allows q o = true := by
  rw [h.heldOn]
  by_cases ht : t' = t
  · rw [if_pos ht, ht, Holding.allows_grant]
    cases option <;> cases o <;> simp
  · simp [ht]

theorem Alters.allows_revoke (h : g.Alters t (·.revoke p) change) (q : Privilege) (t' : Target)
    (o : Bool) : (change.1.heldOn t').allows q o = true ↔
      ¬(q = p ∧ t' = t) ∧ (g.heldOn t').allows q o = true := by
  rw [h.heldOn]
  by_cases ht : t' = t
  · rw [if_pos ht, ht, Holding.allows_revoke]
    simp
  · simp [ht]

theorem Alters.allows_revokeOption (h : g.Alters t (·.revokeOption p) change) (q : Privilege)
    (t' : Target) (o : Bool) : (change.1.heldOn t').allows q o = true ↔
      ¬(q = p ∧ t' = t ∧ o = true) ∧ (g.heldOn t').allows q o = true := by
  rw [h.heldOn]
  by_cases ht : t' = t
  · rw [if_pos ht, ht, Holding.allows_revokeOption]
    cases o <;> simp
  · simp [ht]

end AllowsAltered

theorem alters_system (g : Grants) (f : Holding → Holding × Bool) :
    g.Alters .system f (g.withSystem (f g.system)) where
  heldOn t' := by cases t' <;> simp [heldOn, withSystem]
  changed := rfl
  distinct := id

theorem alters_path {g : Grants} {pattern : Pattern} {f : Holding → Holding × Bool}
    {change : PathGrants × Bool}
    (hheld : ∀ q, change.1.heldOn q =
      if q = pattern then (f (g.paths.heldOn pattern)).1 else g.paths.heldOn q)
    (hchanged : change.2 = (f (g.paths.heldOn pattern)).2)
    (hdistinct : g.paths.Distinct → change.1.Distinct) :
    g.Alters (.path pattern) f (g.withPaths change) where
  heldOn t' := by cases t' <;> simp [heldOn, withPaths, hheld]
  changed := hchanged
  distinct := hdistinct

theorem alters_object {g : Grants} {database : String} {table : Option String}
    {f : Holding → Holding × Bool} {change : ObjectGrants × Bool}
    (hheld : ∀ d t, change.1.heldOn d t =
      if d = database ∧ t = table then (f (g.objects.heldOn database table)).1
      else g.objects.heldOn d t)
    (hchanged : change.2 = (f (g.objects.heldOn database table)).2) :
    g.Alters (.object database table) f (g.withObjects change) where
  heldOn t' := by cases t' <;> simp [heldOn, withObjects, hheld]
  changed := hchanged
  distinct := id

theorem given_alters (g : Grants) (p : Privilege) (t : Target) (option : Bool) :
    g.Alters t (·.grant p option) (g.given p t option) := by
  cases t with
  | system => exact g.alters_system _
  | path pattern =>
    exact alters_path (fun q => PathGrants.heldOn_grant g.paths pattern q p option)
      (PathGrants.changed_grant g.paths pattern p option)
      fun hd => PathGrants.distinct_grant hd pattern p option
  | object database table =>
    exact alters_object
      (fun d t => ObjectGrants.heldOn_add g.objects database d table t p option) rfl

theorem taken_alters (hs : g.Sound) (p : Privilege) (t : Target) :
    g.Alters t (·.revoke p) (g.taken p t) := by
  cases t with
  | system => exact g.alters_system _
  | path pattern =>
    exact alters_path
      (fun q => PathGrants.heldOn_revoke hs.distinct (fun q => hs.holding (.path q)) pattern q p)
      (PathGrants.changed_revoke g.paths pattern p)
      fun hd => PathGrants.distinct_revoke hd pattern p
  | object database table =>
    exact alters_object
      (fun d t => ObjectGrants.heldOn_remove (fun d t => hs.holding (.object d t))
        database d table t p)
      (ObjectGrants.changed_remove g.objects database table p)

theorem optionTaken_alters (g : Grants) (p : Privilege) (t : Target) :
    g.Alters t (·.revokeOption p) (g.optionTaken p t) := by
  cases t with
  | system => exact g.alters_system _
  | path pattern =>
    exact alters_path (fun q => PathGrants.heldOn_revokeOption g.paths pattern q p)
      (PathGrants.changed_revokeOption g.paths pattern p)
      fun hd => PathGrants.distinct_revokeOption hd pattern p
  | object database table =>
    exact alters_object
      (fun d t => ObjectGrants.heldOn_removeOption g.objects database d table t p)
      (ObjectGrants.changed_removeOption g.objects database table p)

theorem of_grant (h : (grant p t option).run g = (.ok changed, g')) :
    p.scope = t.scope ∧ g.given p t option = (g', changed) := by
  rw [run_grant] at h
  exact (of_checked_ok h).imp_left Privilege.scope_of_check

theorem of_revoke (h : (revoke p t).run g = (.ok changed, g')) :
    p.scope = t.scope ∧ g.taken p t = (g', changed) := by
  rw [run_revoke] at h
  exact (of_checked_ok h).imp_left Privilege.scope_of_check

theorem of_revokeOption (h : (revokeOption p t).run g = (.ok changed, g')) :
    p.scope = t.scope ∧ g.optionTaken p t = (g', changed) := by
  rw [run_revokeOption] at h
  exact (of_checked_ok h).imp_left Privilege.scope_of_check

theorem grant_alters (h : (grant p t option).run g = (.ok changed, g')) :
    g.Alters t (·.grant p option) (g', changed) :=
  (of_grant h).2 ▸ g.given_alters p t option

theorem revoke_alters (hs : g.Sound) (h : (revoke p t).run g = (.ok changed, g')) :
    g.Alters t (·.revoke p) (g', changed) :=
  (of_revoke h).2 ▸ taken_alters hs p t

theorem revokeOption_alters (h : (revokeOption p t).run g = (.ok changed, g')) :
    g.Alters t (·.revokeOption p) (g', changed) :=
  (of_revokeOption h).2 ▸ g.optionTaken_alters p t

theorem sound_of_grant (hs : g.Sound) (h : (grant p t option).run g = (.ok changed, g')) :
    g'.Sound :=
  (grant_alters h).sound (fun _ hx => hx.grant p option) hs

theorem sound_of_revoke (hs : g.Sound) (h : (revoke p t).run g = (.ok changed, g')) : g'.Sound :=
  (revoke_alters hs h).sound (fun _ hx => hx.revoke p) hs

theorem sound_of_revokeOption (hs : g.Sound)
    (h : (revokeOption p t).run g = (.ok changed, g')) : g'.Sound :=
  (revokeOption_alters h).sound (fun _ hx => hx.revokeOption p) hs

theorem of_grant_error (h : (grant p t option).run g = (.error fault, g')) :
    p.check t.scope = .error fault ∧ g' = g := of_checked_error (run_grant g p t option ▸ h)

theorem of_revoke_error (h : (revoke p t).run g = (.error fault, g')) :
    p.check t.scope = .error fault ∧ g' = g := of_checked_error (run_revoke g p t ▸ h)

theorem of_revokeOption_error (h : (revokeOption p t).run g = (.error fault, g')) :
    p.check t.scope = .error fault ∧ g' = g := of_checked_error (run_revokeOption g p t ▸ h)

theorem run_grantOption_of_held (hp : (g.heldOn t).has p = true) :
    (grantOption p t).run g = (grant p t true).run g := by
  rw [run_grant]
  refine run_check_bind fun hcheck => ?_
  cases t with
  | system =>
    change (inSystem _).run g = _
    have hsystem : g.system.has p = true := hp
    rw [inSystem, run_within, Holding.run_grantOption_of_held hsystem]
    rfl
  | path pattern =>
    change (inPaths _).run g = _
    rw [inPaths, run_within, PathGrants.run_grantOption_of_held hp]
    rfl
  | object database table =>
    change (inObjects _).run g = _
    rw [inObjects, run_within, ObjectGrants.run_grantOption_of_held hcheck hp]
    rfl

/-- Nothing becomes grantable that is not held on exactly this target. -/
theorem run_grantOption_of_not_held (hp : (g.heldOn t).has p = false) :
    ∃ fault, (grantOption p t).run g = (.error fault, g) := by
  unfold grantOption
  rw [run_bind, run_ofExcept]
  cases p.check t.scope with
  | error fault => exact ⟨fault, rfl⟩
  | ok =>
    cases t with
    | system =>
      change ∃ fault, (inSystem _).run g = _
      have hsystem : g.system.has p = false := hp
      exact ⟨_, by rw [inSystem, run_within, Holding.run_grantOption_of_not_held hsystem]⟩
    | path pattern =>
      change ∃ fault, (inPaths _).run g = _
      obtain ⟨fault, hfault⟩ := PathGrants.run_grantOption_of_not_held hp
      exact ⟨fault, by rw [inPaths, run_within, hfault]⟩
    | object database table =>
      change ∃ fault, (inObjects _).run g = _
      obtain ⟨fault, hfault⟩ := ObjectGrants.run_grantOption_of_not_held hp
      exact ⟨fault, by rw [inObjects, run_within, hfault]⟩

end Grants

end Warden
