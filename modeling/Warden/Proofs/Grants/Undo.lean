import Warden.Proofs.Grants.Tidy

namespace Warden

namespace Holding

theorem not_filled_empty : ¬empty.Filled := by
  rw [Filled]
  decide

/-- A holding that holds something is told from none. -/
theorem eq_of_getD {x y : Option Holding} (hx : ∀ h, x = some h → h.Filled)
    (hy : ∀ h, y = some h → h.Filled) (heq : x.getD empty = y.getD empty) : x = y := by
  cases x with
  | none =>
    cases y with
    | none => rfl
    | some k =>
      have hk : k = empty := heq.symm
      exact absurd (hk ▸ hy k rfl) not_filled_empty
  | some h =>
    cases y with
    | none =>
      have hh : h = empty := heq
      exact absurd (hh ▸ hx h rfl) not_filled_empty
    | some k => exact congrArg some heq

theorem Sound.revoke_grant {h : Holding} (hs : h.Sound) {p : Privilege} (hp : h.has p = false)
    (option : Bool) : ((h.grant p option).1.revoke p).1 = h := by
  have hoption : h.hasOption p = false := Bool.eq_false_iff.2 fun ho => by
    rw [hs p ho] at hp
    cases hp
  refine Holding.ext (fun q => ?_) fun q => ?_
  · rw [has_revoke, has_grant]
    by_cases hq : q = p <;> simp [hq, hp]
  · rw [hasOption_revoke, hasOption_grant]
    by_cases hq : q = p <;> simp [hq, hoption]

end Holding

namespace PathGrants

variable {gs : PathGrants} {pattern : Pattern} {p : Privilege}

theorem replace_replace (gs : PathGrants) (pattern : Pattern) (holding holding' : Holding) :
    replace pattern holding' (replace pattern holding gs) = replace pattern holding' gs := by
  induction gs with
  | nil => rfl
  | cons g gs ih =>
    by_cases hg : g.pattern = pattern
    · simp [replace, hg]
    · simp [replace, hg, ih]

theorem replace_append_new (h : gs.find? pattern = none) (holding holding' : Holding) :
    replace pattern holding' (gs ++ [⟨pattern, holding⟩]) = gs ++ [⟨pattern, holding'⟩] := by
  induction gs with
  | nil => simp [replace]
  | cons g gs ih =>
    rw [find?_cons] at h
    split at h
    · cases h
    · rename_i hg
      rw [List.cons_append, replace, if_neg hg, ih h, List.cons_append]

theorem Filled.revoke_grant (hf : gs.Filled) (hs : (heldOn gs pattern).Sound)
    (hp : (heldOn gs pattern).has p = false) (option : Bool) :
    ((gs.grant pattern p option).1.revoke pattern p).1 = gs := by
  cases hfind : gs.find? pattern with
  | none =>
    have hnew := find?_append_new gs pattern pattern (Holding.empty.grant p option).1 hfind
    rw [if_pos rfl] at hnew
    have hback : ((Holding.empty.grant p option).1.revoke p).1 = .empty :=
      Holding.sound_empty.revoke_grant (Holding.has_empty p) option
    simp only [PathGrants.grant, hfind, PathGrants.revoke, hnew, hback, replace_append_new hfind,
      List.filter_append]
    -- The entry that was added is left empty and goes again.
    rw [hf.filter_eq_self]
    exact List.append_nil gs
  | some holding =>
    rw [heldOn_of_find? hfind] at hs hp
    have hreplaced := find?_replace gs pattern pattern (holding.grant p option).1 (hfind ▸ rfl)
    rw [if_pos rfl] at hreplaced
    simp only [PathGrants.grant, hfind, PathGrants.revoke, hreplaced, replace_replace,
      hs.revoke_grant hp option, replace_eq_self hfind]
    exact hf.filter_eq_self

theorem Filled.eq_nil (hf : gs.Filled) (hnone : ∀ q, heldOn gs q = .empty) : gs = [] := by
  cases gs with
  | nil => rfl
  | cons g gs =>
    have hheld : heldOn (g :: gs) g.pattern = g.holding :=
      heldOn_of_find? ((find?_cons g gs g.pattern).trans (if_pos rfl))
    rw [hnone] at hheld
    exact absurd (hheld ▸ hf g List.mem_cons_self) Holding.not_filled_empty

end PathGrants

namespace DatabaseGrants

variable {d d' : DatabaseGrants}

theorem Filled.exists_held (h : d.Filled) : ∃ table, (d.heldOn table).Filled := by
  by_cases hown : d.own.Filled
  · exact ⟨none, hown⟩
  · have hempty := h.nonempty
    rw [isEmpty, eq_true_of_ne_false hown, Bool.true_and] at hempty
    obtain ⟨e, he⟩ := List.exists_mem_of_ne_nil d.tables.entries fun hnil => by
      rw [KeyMap.isEmpty, hnil] at hempty
      cases hempty
    have hget : d.heldOn (some e.1) = e.2 := by
      rw [heldOn, get?, KeyMap.get?_of_mem he, Option.getD_some]
    exact ⟨some e.1, hget ▸ h.tables e he⟩

/-- Where every table holds something, the holdings settle the tables. -/
theorem Filled.ext (h : d.Filled) (h' : d'.Filled) (hheld : ∀ t, d.heldOn t = d'.heldOn t) :
    d = d' := by
  have hown : d.own = d'.own := hheld none
  have htables : d.tables = d'.tables := KeyMap.ext_get? fun table =>
    Holding.eq_of_getD (fun _ => KeyMap.forall_of_get? h.tables)
      (fun _ => KeyMap.forall_of_get? h'.tables) (hheld (some table))
  obtain ⟨own, tables⟩ := d
  obtain rfl : own = d'.own := hown
  obtain rfl : tables = d'.tables := htables
  rfl

theorem not_filled_heldOn_empty (table : Option String) : ¬(empty.heldOn table).Filled := by
  cases table <;> exact Holding.not_filled_empty

theorem eq_of_getD {x y : Option DatabaseGrants} (hx : ∀ d, x = some d → d.Filled)
    (hy : ∀ d, y = some d → d.Filled)
    (hheld : ∀ t, (x.getD empty).heldOn t = (y.getD empty).heldOn t) : x = y := by
  cases x with
  | none =>
    cases y with
    | none => rfl
    | some e =>
      obtain ⟨t, ht⟩ := (hy e rfl).exists_held
      have hempty : empty.heldOn t = e.heldOn t := hheld t
      exact absurd (hempty ▸ ht) (not_filled_heldOn_empty t)
  | some d =>
    cases y with
    | none =>
      obtain ⟨t, ht⟩ := (hx d rfl).exists_held
      have hempty : d.heldOn t = empty.heldOn t := hheld t
      exact absurd (hempty ▸ ht) (not_filled_heldOn_empty t)
    | some e => exact congrArg some ((hx d rfl).ext (hy e rfl) hheld)

end DatabaseGrants

namespace ObjectGrants

variable {o o' : ObjectGrants} {database : String} {table : Option String} {p : Privilege}

theorem Filled.ext (h : o.Filled) (h' : o'.Filled)
    (hheld : ∀ d t, o.heldOn d t = o'.heldOn d t) : o = o' := by
  have hdatabases : o.databases = o'.databases := KeyMap.ext_get? fun database =>
    DatabaseGrants.eq_of_getD (fun _ => KeyMap.forall_of_get? h)
      (fun _ => KeyMap.forall_of_get? h') fun t => by
        rw [← heldOn_eq, ← heldOn_eq]
        exact hheld database t
  obtain ⟨databases⟩ := o
  obtain rfl : databases = o'.databases := hdatabases
  rfl

theorem Filled.remove_add (hf : o.Filled) (hs : ∀ d t, (o.heldOn d t).Sound)
    (hp : (o.heldOn database table).has p = false) (option : Bool) :
    ((o.add database table p option).1.remove database table p).1 = o := by
  have hgranted (d t) := heldOn_add o database d table t p option
  have hself : (o.add database table p option).1.heldOn database table =
      ((o.heldOn database table).grant p option).1 :=
    (hgranted database table).trans (if_pos ⟨rfl, rfl⟩)
  have hsound : ∀ d t, ((o.add database table p option).1.heldOn d t).Sound := by
    intro d t
    rw [hgranted]
    split
    · exact (hs database table).grant p option
    · exact hs d t
  refine Filled.ext ((hf.add database table p option).remove database table p) hf fun d t => ?_
  rw [heldOn_remove hsound, hself, hgranted]
  split
  · rename_i hdt
    rw [hdt.1, hdt.2, (hs database table).revoke_grant hp]
  · rfl

end ObjectGrants

namespace Grants

variable {g g' : Grants} {p q : Privilege} {t u : Target} {option : Bool}

theorem Tidy.taken_given (h : g.Tidy) (hp : (g.heldOn t).has p = false) (option : Bool) :
    ((g.given p t option).1.taken p t).1 = g := by
  have hheld := h.sound.holding
  cases t with
  | system =>
    have hsystem : g.system.Sound := hheld .system
    simp only [given, taken, withSystem, hsystem.revoke_grant hp]
  | path pattern =>
    simp only [given, taken, withPaths, h.filled.paths.revoke_grant (hheld (.path pattern)) hp]
  | object database table =>
    have hobjects : ∀ d t, (g.objects.heldOn d t).Sound := fun d t => hheld (.object d t)
    simp only [given, taken, withObjects, h.filled.objects.remove_add hobjects hp]

/-- What was not held is granted and taken back without a trace. -/
theorem Tidy.revoke_grant (h : g.Tidy) (hscope : p.scope = t.scope)
    (hp : (g.heldOn t).has p = false) (option : Bool) :
    ∃ g', (grant p t option).run g = (.ok true, g') ∧ (revoke p t).run g' = (.ok true, g) := by
  have hgrant : g.Alters t (·.grant p option) (g.given p t option) := g.given_alters p t option
  have hsound := hgrant.sound (fun _ hx => hx.grant p option) h.sound
  have hheld : ((g.given p t option).1.heldOn t).has p = true := by
    rw [hgrant.heldOn, if_pos rfl, Holding.has_grant]
    simp
  have hchanged : (g.given p t option).2 = true := by
    rw [hgrant.changed, Holding.grant, hp]
    rfl
  have hchanged' : ((g.given p t option).1.taken p t).2 = true :=
    (taken_alters hsound p t).changed.trans hheld
  refine ⟨(g.given p t option).1, ?_, ?_⟩
  · rw [run_grant_of_scope hscope, hchanged]
  · rw [run_revoke_of_scope hscope, hchanged', h.taken_given hp]

/-- Grants in good order by which nothing is held are empty. -/
theorem Tidy.eq_empty (h : g.Tidy) (hnone : ∀ p t, (g.heldOn t).has p = false) : g = empty := by
  have hheld (t : Target) : g.heldOn t = .empty := by
    refine Holding.ext (fun p => ?_) fun p => ?_
    · rw [hnone, Holding.has_empty]
    · rw [Holding.hasOption_empty, Bool.eq_false_iff]
      intro hoption
      exact Bool.eq_false_iff.1 (hnone p t) (h.sound.holding t p hoption)
  have hsystem : g.system = .empty := hheld .system
  have hpaths : g.paths = [] := h.filled.paths.eq_nil fun q => hheld (.path q)
  have hobjects : g.objects = .empty :=
    h.filled.objects.ext ObjectGrants.filled_empty fun d t =>
      (hheld (.object d t)).trans (heldOn_empty (.object d t)).symm
  obtain ⟨system, paths, objects⟩ := g
  rw [empty, ← hsystem, ← hpaths, ← hobjects]

def pairs (g : Grants) : List (Privilege × Target) :=
  g.places.flatMap fun x => x.2.held.toList.map (·, x.1)

def revokeAll (g : Grants) (order : List (Privilege × Target)) : Grants :=
  order.foldl (fun g x => g.after (.revoke x.1 x.2)) g

theorem has_after_revoke (h : g.Tidy) : ((g.after (.revoke q u)).heldOn t).has p = true ↔
    (p, t) ≠ (q, u) ∧ (g.heldOn t).has p = true := by
  rcases g.change_cases (.revoke q u) with ⟨changed, hrun⟩ | ⟨fault, hrun⟩
  · rw [Ne, Prod.mk.injEq]
    exact (revoke_alters h.sound hrun).allows_revoke p t false
  · -- What is refused belongs elsewhere, so it was not held.
    rw [after_of_run hrun]
    refine ⟨fun hp => ⟨fun heq => ?_, hp⟩, And.right⟩
    obtain ⟨rfl, rfl⟩ := Prod.mk.inj heq
    exact Privilege.scope_ne_of_check (of_revoke_error hrun).1 (h.scope t p false hp)

theorem tidy_revokeAll (h : g.Tidy) (order : List (Privilege × Target)) :
    (g.revokeAll order).Tidy := by
  induction order generalizing g with
  | nil => exact h
  | cons x order ih => exact ih (h.after _)

theorem has_revokeAll (h : g.Tidy) (order : List (Privilege × Target)) :
    ((g.revokeAll order).heldOn t).has p = true ↔
      (p, t) ∉ order ∧ (g.heldOn t).has p = true := by
  induction order generalizing g with
  | nil => simp [revokeAll]
  | cons x order ih =>
    have hstep : g.revokeAll (x :: order) = (g.after (.revoke x.1 x.2)).revokeAll order := rfl
    rw [hstep, ih (h.after _), has_after_revoke h, List.mem_cons, not_or, and_left_comm, and_assoc]

/-- Whatever holds something is kept. -/
theorem mem_places (hp : (g.heldOn t).has p = true) : (t, g.heldOn t) ∈ g.places := by
  have hne : g.heldOn t ≠ .empty := by
    intro hempty
    rw [hempty, Holding.has_empty] at hp
    cases hp
  simp only [places, List.cons_append, List.mem_cons, List.mem_append, List.mem_map,
    List.mem_flatMap]
  cases t with
  | system => exact .inl rfl
  | path pattern =>
    cases hfind : g.paths.find? pattern with
    | none => exact absurd (PathGrants.heldOn_of_none hfind) hne
    | some holding =>
      have hheld : g.heldOn (.path pattern) = holding := PathGrants.heldOn_of_find? hfind
      exact .inr (.inl ⟨_, PathGrants.exists_of_find? hfind, by rw [hheld]⟩)
  | object database table =>
    cases hget : g.objects.get? database table with
    | none => exact absurd (ObjectGrants.heldOn_of_none hget) hne
    | some holding =>
      have hheld : g.heldOn (.object database table) = holding := ObjectGrants.heldOn_of_get? hget
      obtain ⟨d, hd, htable⟩ := Option.bind_eq_some_iff.1 hget
      refine .inr (.inr ⟨(database, d), Entries.mem_of_find? hd, ?_⟩)
      rw [hheld]
      cases table with
      | none =>
        obtain rfl : d.own = holding := Option.some.inj htable
        exact .inl rfl
      | some table => exact .inr ⟨(table, holding), Entries.mem_of_find? htable, rfl⟩

theorem mem_pairs (hs : g.Sound) : (p, t) ∈ g.pairs ↔ (g.heldOn t).has p = true := by
  simp only [pairs, List.mem_flatMap, List.mem_map, Prod.mk.injEq]
  constructor
  · rintro ⟨x, hx, q, hq, rfl, rfl⟩
    rw [heldOn_of_mem_places hs hx]
    exact PrivilegeSet.mem_toList.1 hq
  · intro hp
    exact ⟨_, mem_places hp, p, PrivilegeSet.mem_toList.2 hp, rfl, rfl⟩

/-- Granting what was not held and taking it back leaves the very same grants, after any changes that
came before. So when all that is held is revoked, in whatever order and whatever else along with it,
nothing is left. -/
theorem revoke_undoes_grant (changes : List Change) :
    let g := changes.foldl after empty
    (∀ p t option, p.scope = t.scope → (g.heldOn t).has p = false →
      ∃ g', (grant p t option).run g = (.ok true, g') ∧ (revoke p t).run g' = (.ok true, g)) ∧
    (∀ p t, (p, t) ∈ g.pairs ↔ (g.heldOn t).has p = true) ∧
    ∀ order, g.pairs ⊆ order → g.revokeAll order = empty := by
  intro g
  have htidy : g.Tidy := tidy_empty.afterAll changes
  refine ⟨fun p t option hscope hp => htidy.revoke_grant hscope hp option,
    fun p t => mem_pairs htidy.sound, fun order horder => ?_⟩
  refine (tidy_revokeAll htidy order).eq_empty fun p t => Bool.eq_false_iff.2 fun hp => ?_
  obtain ⟨hnot, hheld⟩ := (has_revokeAll htidy order).1 hp
  exact hnot (horder ((mem_pairs htidy.sound).2 hheld))

/-- A table's privilege is granted beside another table's and under its own database's, and taken back;
and all that is held is revoked from the last to the first. -/
theorem revoke_undoes_grant_of_table :
    let sg := (Pattern.parse "root.sg.*").toOption.getD .everything
    let changes := [.grant .readData (.path .everything) true, .grant .readData (.path sg) false,
      .grant .select (.object "db" none) false, .grant .insert (.object "db" (some "t")) true,
      .revoke .readData (.path .everything)]
    let g := changes.foldl after empty
    (∃ g', (grant .select (.object "db" (some "u")) true).run g = (.ok true, g') ∧
      (revoke .select (.object "db" (some "u"))).run g' = (.ok true, g)) ∧
    g.pairs.length = 3 ∧ g.revokeAll g.pairs.reverse = empty := by
  intro sg changes g
  obtain ⟨hundone, -, hall⟩ := revoke_undoes_grant changes
  have hnot : (g.heldOn (.object "db" (some "u"))).has .select = false := by decide +kernel
  refine ⟨hundone .select (.object "db" (some "u")) true rfl hnot, by decide +kernel, ?_⟩
  exact hall g.pairs.reverse fun _ hx => List.mem_reverse.2 hx

end Grants

end Warden
