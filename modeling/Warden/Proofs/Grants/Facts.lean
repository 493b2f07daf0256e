import Warden.Grants.Basic
import Warden.Proofs.KeyMap

namespace Warden

/-- Whatever is held on the first target counts for the second. -/
def Target.covers : Target → Target → Bool
  | .system, .system => true
  | .path p, .path q => p.covers q
  | .object database none, .object database' _ => database = database'
  | .object database (some table), .object database' (some table') =>
    database = database' && table = table'
  | _, _ => false

theorem Privilege.scope_ne_of_check {p : Privilege} {scope : Scope} {fault : Fault}
    (h : p.check scope = .error fault) : p.scope ≠ scope := by
  intro hscope
  rw [check_eq_ok hscope] at h
  cases h

namespace Holding

/-- What may be granted to others is held. -/
def Sound (h : Holding) : Prop := ∀ p, h.hasOption p = true → h.has p = true

theorem sound_empty : empty.Sound := by
  intro p hp
  simp at hp

theorem Sound.grant {h : Holding} (hs : h.Sound) (p : Privilege) (option : Bool) :
    (h.grant p option).1.Sound := by
  intro q hq
  rw [hasOption_grant, Bool.or_eq_true, Bool.and_eq_true] at hq
  rw [has_grant, Bool.or_eq_true]
  exact hq.imp (·.2) (hs q)

theorem Sound.revoke {h : Holding} (hs : h.Sound) (p : Privilege) : (h.revoke p).1.Sound := by
  intro q hq
  rw [hasOption_revoke, Bool.and_eq_true] at hq
  rw [has_revoke, Bool.and_eq_true]
  exact hq.imp_right (hs q)

theorem Sound.revokeOption {h : Holding} (hs : h.Sound) (p : Privilege) :
    (h.revokeOption p).1.Sound := by
  intro q hq
  rw [hasOption_revokeOption, Bool.and_eq_true] at hq
  exact hs q hq.2

/-- Nothing tells a sound holding without privileges from one that was never there. -/
theorem Sound.eq_empty {h : Holding} (hs : h.Sound) (he : h.isEmpty = true) : h = empty := by
  have hno (p : Privilege) : h.has p = false := PrivilegeSet.contains_of_isEmpty he p
  refine Holding.ext (fun p => ?_) fun p => ?_
  · rw [hno, has_empty]
  · rw [hasOption_empty, Bool.eq_false_iff]
    intro hp
    have := hs p hp
    rw [hno] at this
    cases this

theorem allows_grant (h : Holding) (p q : Privilege) (option o : Bool) :
    (h.grant p option).1.allows q o = ((decide (q = p) && (!o || option)) || h.allows q o) := by
  cases o
  · simpa [allows] using has_grant h p q option
  · simpa [allows, Bool.and_comm] using hasOption_grant h p q option

theorem allows_revoke (h : Holding) (p q : Privilege) (o : Bool) :
    (h.revoke p).1.allows q o = (!decide (q = p) && h.allows q o) := by
  cases o
  · exact has_revoke h p q
  · exact hasOption_revoke h p q

theorem allows_revokeOption (h : Holding) (p q : Privilege) (o : Bool) :
    (h.revokeOption p).1.allows q o = (!(decide (q = p) && o) && h.allows q o) := by
  cases o
  · simpa [allows] using has_revokeOption h p q
  · simpa [allows] using hasOption_revokeOption h p q

/-- A change that is reported as none is none. -/
theorem grant_unchanged {h : Holding} {p : Privilege} {option : Bool}
    (hno : (h.grant p option).2 = false) : (h.grant p option).1 = h := by
  obtain ⟨hp, hoption⟩ : h.has p = true ∧ (option = true → h.hasOption p = true) := by
    simpa [grant] using hno
  refine Holding.ext (fun q => ?_) fun q => ?_
  · rw [has_grant]
    by_cases hq : q = p <;> simp [hq, hp]
  · rw [hasOption_grant]
    cases option
    · rfl
    · by_cases hq : q = p <;> simp [hq, hoption]

theorem Sound.revoke_unchanged {h : Holding} (hs : h.Sound) {p : Privilege}
    (hno : (h.revoke p).2 = false) : (h.revoke p).1 = h := by
  have hp : h.has p = false := hno
  -- Without the privilege there is no option either.
  have hoption : h.hasOption p = false := Bool.eq_false_iff.2 fun ho => by
    rw [hs p ho] at hp
    cases hp
  refine Holding.ext (fun q => ?_) fun q => ?_
  · rw [has_revoke]
    by_cases hq : q = p <;> simp [hq, hp]
  · rw [hasOption_revoke]
    by_cases hq : q = p <;> simp [hq, hoption]

theorem revokeOption_unchanged {h : Holding} {p : Privilege}
    (hno : (h.revokeOption p).2 = false) : (h.revokeOption p).1 = h := by
  have hoption : h.hasOption p = false := hno
  refine Holding.ext (fun q => ?_) fun q => ?_
  · rw [has_revokeOption]
  · rw [hasOption_revokeOption]
    by_cases hq : q = p <;> simp [hq, hoption]

@[simp] theorem allows_empty (p : Privilege) (option : Bool) : empty.allows p option = false := by
  cases option <;> simp [allows]

@[simp] theorem revoke_empty (p : Privilege) : (empty.revoke p).1 = empty := by
  refine Holding.ext (fun q => ?_) fun q => ?_
  · simp [has_revoke]
  · simp [hasOption_revoke]

@[simp] theorem revokeOption_empty (p : Privilege) : (empty.revokeOption p).1 = empty := by
  refine Holding.ext (fun q => ?_) fun q => ?_
  · simp [has_revokeOption]
  · simp [hasOption_revokeOption]

/-- To make a held privilege grantable is to grant it once more, with the option. -/
theorem run_grantOption_of_held {h : Holding} {p : Privilege} (hp : h.has p = true)
    (place : Option String) :
    (grantOption p place).run h = (.ok (h.grant p true).2, (h.grant p true).1) := by
  have hheld : h.held.insert p = h.held := PrivilegeSet.ext fun q => by
    rw [PrivilegeSet.contains_insert]
    by_cases hq : q = p
    · rw [hq, decide_eq_true rfl, Bool.true_or]
      exact hp.symm
    · simp [hq]
  rw [grantOption, Action.run_bind, Action.run_look, hp]
  simp [grant, hp, hheld]

theorem run_grantOption_of_not_held {h : Holding} {p : Privilege} (hp : h.has p = false)
    (place : Option String) :
    (grantOption p place).run h = (.error (optionWithout p place), h) := by
  rw [grantOption, Action.run_bind, Action.run_look, hp]
  rfl

end Holding

namespace PathGrants

/-- What is held on exactly a pattern. -/
def heldOn (gs : PathGrants) (pattern : Pattern) : Holding := (gs.find? pattern).getD .empty

def Distinct (gs : PathGrants) : Prop := (List.map PathGrant.pattern gs).Nodup

theorem find?_cons (g : PathGrant) (gs : PathGrants) (q : Pattern) :
    find? (g :: gs) q = if g.pattern = q then some g.holding else find? gs q := by
  by_cases h : g.pattern = q <;> simp [find?, h]

theorem find?_eq_none {gs : PathGrants} {q : Pattern} (h : q ∉ List.map PathGrant.pattern gs) :
    find? gs q = none := by
  induction gs with
  | nil => rfl
  | cons g gs ih =>
    rw [List.map_cons, List.mem_cons, not_or] at h
    rw [find?_cons, if_neg (Ne.symm h.1), ih h.2]

theorem find?_of_mem {gs : PathGrants} {g : PathGrant} (hd : Distinct gs) (hg : g ∈ gs) :
    find? gs g.pattern = some g.holding := by
  induction gs with
  | nil => cases hg
  | cons e gs ih =>
    obtain ⟨he, hd⟩ := List.nodup_cons.1 hd
    rw [find?_cons]
    rcases List.mem_cons.1 hg with rfl | hg
    · exact if_pos rfl
    · rw [if_neg, ih hd hg]
      intro hp
      exact he (hp ▸ List.mem_map_of_mem hg)

theorem exists_of_find? {gs : PathGrants} {q : Pattern} {holding : Holding}
    (h : find? gs q = some holding) : ⟨q, holding⟩ ∈ gs := by
  induction gs with
  | nil => cases h
  | cons g gs ih =>
    rw [find?_cons] at h
    split at h
    · rename_i hq
      obtain rfl : g.holding = holding := Option.some.inj h
      obtain rfl := hq
      exact List.mem_cons_self
    · exact List.mem_cons_of_mem _ (ih h)

theorem find?_append_new (gs : PathGrants) (pattern q : Pattern) (holding : Holding)
    (h : find? gs pattern = none) :
    find? (gs ++ [⟨pattern, holding⟩]) q = if q = pattern then some holding else find? gs q := by
  induction gs with
  | nil =>
    rw [List.nil_append, find?_cons]
    simp [eq_comm]
  | cons g gs ih =>
    rw [find?_cons] at h
    split at h
    · cases h
    · rename_i hg
      rw [List.cons_append, find?_cons, find?_cons, ih h]
      by_cases hq : q = pattern
      · simp [hq, hg]
      · simp [hq]

theorem find?_replace (gs : PathGrants) (pattern q : Pattern) (holding : Holding)
    (h : (find? gs pattern).isSome) :
    find? (replace pattern holding gs) q = if q = pattern then some holding else find? gs q := by
  induction gs with
  | nil => cases h
  | cons g gs ih =>
    rw [find?_cons] at h
    by_cases hg : g.pattern = pattern
    · rw [replace, if_pos hg, find?_cons, find?_cons, hg]
      by_cases hq : q = pattern
      · simp [hq]
      · simp [hq, Ne.symm hq]
    · rw [if_neg hg] at h
      rw [replace, if_neg hg, find?_cons, find?_cons, ih h]
      by_cases hq : q = pattern
      · simp [hq, hg]
      · simp [hq]

theorem patterns_replace (gs : PathGrants) (pattern : Pattern) (holding : Holding) :
    List.map PathGrant.pattern (replace pattern holding gs) = List.map PathGrant.pattern gs := by
  induction gs with
  | nil => rfl
  | cons g gs ih =>
    rw [replace]
    split
    · rename_i hg
      rw [List.map_cons, List.map_cons, hg]
    · rw [List.map_cons, List.map_cons, ih]

theorem forall_replace {P : Holding → Prop} {gs : PathGrants} (h : ∀ g ∈ gs, P g.holding)
    {pattern : Pattern} {holding : Holding} (hholding : P holding) :
    ∀ g ∈ gs.replace pattern holding, P g.holding := by
  induction gs with
  | nil => exact h
  | cons g gs ih =>
    obtain ⟨hg, hgs⟩ := List.forall_mem_cons.1 h
    rw [replace]
    split
    · exact List.forall_mem_cons.2 ⟨hholding, hgs⟩
    · exact List.forall_mem_cons.2 ⟨hg, ih hgs⟩

theorem replace_eq_self {gs : PathGrants} {pattern : Pattern} {holding : Holding}
    (h : gs.find? pattern = some holding) : gs.replace pattern holding = gs := by
  induction gs with
  | nil => rfl
  | cons g gs ih =>
    rw [find?_cons] at h
    rw [replace]
    split at h
    · rename_i hg
      obtain rfl := Option.some.inj h
      rw [if_pos hg, ← hg]
    · rename_i hg
      rw [if_neg hg, ih h]

theorem Distinct.replace {gs : PathGrants} (hd : Distinct gs) (pattern : Pattern)
    (holding : Holding) : Distinct (gs.replace pattern holding) := by
  rwa [Distinct, patterns_replace]

theorem find?_filter {gs : PathGrants} (hd : Distinct gs) (q : Pattern) :
    find? (List.filter (!·.isEmpty) gs) q = (find? gs q).filter (!·.isEmpty) := by
  induction gs with
  | nil => rfl
  | cons g gs ih =>
    obtain ⟨hg, hd⟩ := List.nodup_cons.1 hd
    rw [List.filter_cons, find?_cons]
    -- Patterns are distinct, so an entry that is left out leaves nothing for its pattern.
    by_cases he : g.isEmpty
    · rw [if_neg (by simp [he]), ih hd]
      split
      · rename_i hq
        have hnone : find? gs q = none := find?_eq_none (hq ▸ hg)
        have he' : g.holding.isEmpty = true := he
        rw [hnone, Option.filter_some, if_neg (by simp [he'])]
        rfl
      · rfl
    · rw [if_pos (by simp [he]), find?_cons, ih hd]
      have he' : g.holding.isEmpty = false := by simpa [PathGrant.isEmpty] using he
      split
      · rw [Option.filter_some, if_pos (by simp [he'])]
      · rfl

theorem heldOn_of_find? {gs : PathGrants} {q : Pattern} {holding : Holding}
    (h : find? gs q = some holding) : heldOn gs q = holding := by
  rw [heldOn, h, Option.getD_some]

theorem heldOn_of_none {gs : PathGrants} {q : Pattern} (h : find? gs q = none) :
    heldOn gs q = .empty := by
  rw [heldOn, h, Option.getD_none]

theorem heldOn_replace (gs : PathGrants) (pattern q : Pattern) (holding : Holding)
    (h : (find? gs pattern).isSome) :
    heldOn (replace pattern holding gs) q = if q = pattern then holding else heldOn gs q := by
  rw [heldOn, find?_replace gs pattern q holding h]
  split <;> rfl

/-- Entries that hold nothing can go unseen. -/
theorem heldOn_filter {gs : PathGrants} (hd : Distinct gs) {q : Pattern}
    (hs : (heldOn gs q).Sound) : heldOn (List.filter (!·.isEmpty) gs) q = heldOn gs q := by
  rw [heldOn, find?_filter hd]
  cases hf : find? gs q with
  | none => rw [heldOn_of_none hf]; rfl
  | some holding =>
    rw [heldOn_of_find? hf] at hs ⊢
    rw [Option.filter_some]
    split
    · rfl
    · rename_i he
      exact (hs.eq_empty (by simpa using he)).symm

theorem heldOn_grant (gs : PathGrants) (pattern q : Pattern) (p : Privilege) (option : Bool) :
    heldOn (gs.grant pattern p option).1 q =
      if q = pattern then ((heldOn gs pattern).grant p option).1 else heldOn gs q := by
  cases h : find? gs pattern with
  | none =>
    rw [grant, h, heldOn, heldOn_of_none h, find?_append_new gs pattern q _ h]
    split <;> rfl
  | some holding =>
    rw [grant, h, heldOn_of_find? h]
    exact heldOn_replace gs pattern q _ (h ▸ rfl)

theorem changed_grant (gs : PathGrants) (pattern : Pattern) (p : Privilege) (option : Bool) :
    (gs.grant pattern p option).2 = ((heldOn gs pattern).grant p option).2 := by
  cases h : find? gs pattern with
  | none => rw [grant, h, heldOn_of_none h]
  | some holding => rw [grant, h, heldOn_of_find? h]

theorem heldOn_revoke {gs : PathGrants} (hd : Distinct gs) (hs : ∀ q, (heldOn gs q).Sound)
    (pattern q : Pattern) (p : Privilege) :
    heldOn (gs.revoke pattern p).1 q =
      if q = pattern then ((heldOn gs pattern).revoke p).1 else heldOn gs q := by
  -- Entries that hold nothing are swept out in either case.
  cases h : find? gs pattern with
  | none =>
    rw [revoke, h, heldOn_of_none h, heldOn_filter hd (hs q)]
    split
    · rename_i hq
      rw [hq, heldOn_of_none h, Holding.revoke_empty]
    · rfl
  | some holding =>
    have hreplaced (q : Pattern) := heldOn_replace gs pattern q (holding.revoke p).1 (h ▸ rfl)
    rw [revoke, h, heldOn_of_find? h]
    refine (heldOn_filter (hd.replace pattern _) ?_).trans (hreplaced q)
    rw [hreplaced]
    split
    · exact (heldOn_of_find? h ▸ hs pattern).revoke p
    · exact hs q

theorem changed_revoke (gs : PathGrants) (pattern : Pattern) (p : Privilege) :
    (gs.revoke pattern p).2 = ((heldOn gs pattern).revoke p).2 := by
  cases h : find? gs pattern with
  | none => rw [revoke, h, heldOn_of_none h]; exact (Holding.has_empty p).symm
  | some holding => rw [revoke, h, heldOn_of_find? h]

theorem heldOn_revokeOption (gs : PathGrants) (pattern q : Pattern) (p : Privilege) :
    heldOn (gs.revokeOption pattern p).1 q =
      if q = pattern then ((heldOn gs pattern).revokeOption p).1 else heldOn gs q := by
  cases h : find? gs pattern with
  | none =>
    rw [revokeOption, h, heldOn_of_none h, Holding.revokeOption_empty]
    change heldOn gs q = _
    split
    · rename_i hq
      exact hq ▸ heldOn_of_none h
    · rfl
  | some holding =>
    rw [revokeOption, h, heldOn_of_find? h]
    exact heldOn_replace gs pattern q _ (h ▸ rfl)

theorem changed_revokeOption (gs : PathGrants) (pattern : Pattern) (p : Privilege) :
    (gs.revokeOption pattern p).2 = ((heldOn gs pattern).revokeOption p).2 := by
  cases h : find? gs pattern with
  | none => rw [revokeOption, h, heldOn_of_none h]; exact (Holding.hasOption_empty p).symm
  | some holding => rw [revokeOption, h, heldOn_of_find? h]

theorem distinct_grant {gs : PathGrants} (hd : Distinct gs) (pattern : Pattern) (p : Privilege)
    (option : Bool) : Distinct (gs.grant pattern p option).1 := by
  cases h : find? gs pattern with
  | none =>
    rw [grant, h]
    -- An entry is only added for a pattern that has none.
    have hnew : pattern ∉ List.map PathGrant.pattern gs := by
      intro hm
      obtain ⟨g, hg, rfl⟩ := List.mem_map.1 hm
      rw [find?_of_mem hd hg] at h
      cases h
    rw [Distinct, List.map_append, List.nodup_append]
    refine ⟨hd, by simp, ?_⟩
    rintro a ha b hb rfl
    obtain rfl : a = pattern := by simpa using hb
    exact hnew ha
  | some holding =>
    rw [grant, h]
    exact hd.replace pattern _

theorem distinct_revoke {gs : PathGrants} (hd : Distinct gs) (pattern : Pattern) (p : Privilege) :
    Distinct (gs.revoke pattern p).1 := by
  cases h : find? gs pattern with
  | none =>
    rw [revoke, h]
    exact hd.sublist (List.filter_sublist.map _)
  | some holding =>
    rw [revoke, h]
    exact (hd.replace pattern _).sublist (List.filter_sublist.map _)

theorem distinct_revokeOption {gs : PathGrants} (hd : Distinct gs) (pattern : Pattern)
    (p : Privilege) : Distinct (gs.revokeOption pattern p).1 := by
  cases h : find? gs pattern with
  | none => rwa [revokeOption, h]
  | some holding =>
    rw [revokeOption, h]
    exact hd.replace pattern _

theorem allows_iff {gs : PathGrants} (hd : Distinct gs) {path : Pattern} {p : Privilege}
    {option : Bool} : gs.allows path p option = true ↔
      ∃ pattern, pattern.covers path = true ∧ (heldOn gs pattern).allows p option = true := by
  rw [allows, List.any_eq_true]
  constructor
  · rintro ⟨g, hg, h⟩
    rw [PathGrant.allows, Bool.and_eq_true] at h
    exact ⟨g.pattern, h.2, heldOn_of_find? (find?_of_mem hd hg) ▸ h.1⟩
  · rintro ⟨pattern, hcovers, h⟩
    cases hf : find? gs pattern with
    | none => simp [heldOn_of_none hf] at h
    | some holding =>
      rw [heldOn_of_find? hf] at h
      exact ⟨_, exists_of_find? hf, by simp [PathGrant.allows, h, hcovers]⟩

end PathGrants

namespace DatabaseGrants

def heldOn (d : DatabaseGrants) (table : Option String) : Holding := (d.get? table).getD .empty

theorem heldOn_put (d : DatabaseGrants) (table t : Option String) (holding : Holding) :
    (d.put table holding).heldOn t = if t = table then holding else d.heldOn t := by
  cases table with
  | none => cases t <;> simp [heldOn, put, get?]
  | some table =>
    cases t with
    | none => simp [heldOn, put, get?]
    | some t =>
      rw [heldOn, put, get?, KeyMap.get?_insert]
      by_cases h : t = table <;> simp [h, heldOn, get?]

theorem put_eq_self {d : DatabaseGrants} {table : Option String} {holding : Holding}
    (h : d.get? table = some holding) : d.put table holding = d := by
  cases table with
  | none =>
    obtain rfl := Option.some.inj h
    rfl
  | some table =>
    have hinsert : d.tables.insert table holding = d.tables := KeyMap.insert_eq_self h
    rw [put, hinsert]

theorem heldOn_dropEmpty {d : DatabaseGrants} (hs : ∀ t, (d.heldOn t).Sound)
    (table t : Option String) : (d.dropEmpty table).heldOn t = d.heldOn t := by
  cases table with
  | none => rfl
  | some table =>
    rw [dropEmpty]
    split
    · rename_i hany
      -- What is dropped held nothing, as what is not there does.
      obtain ⟨holding, hget, he⟩ := (Option.any_eq_true _ _).1 hany
      cases t with
      | none => rfl
      | some t =>
        by_cases ht : t = table
        · obtain rfl := ht
          have hheld : d.heldOn (some t) = holding := by simp [heldOn, get?, hget]
          have hsound : holding.Sound := hheld ▸ hs (some t)
          rw [hheld, hsound.eq_empty he]
          simp [heldOn, get?, KeyMap.get?_erase]
        · simp [heldOn, get?, KeyMap.get?_erase, ht]
    · rfl

theorem heldOn_of_isEmpty {d : DatabaseGrants} (hs : ∀ t, (d.heldOn t).Sound)
    (he : d.isEmpty = true) (t : Option String) : d.heldOn t = .empty := by
  rw [isEmpty, Bool.and_eq_true] at he
  cases t with
  | none => exact (hs none).eq_empty he.1
  | some t => rw [heldOn, get?, KeyMap.get?_of_isEmpty he.2]; rfl

end DatabaseGrants

namespace ObjectGrants

def heldOn (o : ObjectGrants) (database : String) (table : Option String) : Holding :=
  (o.get? database table).getD .empty

theorem heldOn_eq (o : ObjectGrants) (database : String) (table : Option String) :
    o.heldOn database table = ((o.databases.get? database).getD .empty).heldOn table := by
  rw [heldOn, get?]
  cases h : o.databases.get? database with
  | some d => rfl
  | none => cases table <;> rfl

theorem heldOn_of_get? {o : ObjectGrants} {database : String} {table : Option String}
    {holding : Holding} (h : o.get? database table = some holding) :
    o.heldOn database table = holding := by
  rw [heldOn, h, Option.getD_some]

theorem heldOn_of_none {o : ObjectGrants} {database : String} {table : Option String}
    (h : o.get? database table = none) : o.heldOn database table = .empty := by
  rw [heldOn, h, Option.getD_none]

theorem heldOn_put (o : ObjectGrants) (database d : String) (table t : Option String)
    (holding : Holding) : (o.put database table holding).heldOn d t =
      if d = database ∧ t = table then holding else o.heldOn d t := by
  rw [heldOn_eq, put, KeyMap.get?_insert, heldOn_eq]
  by_cases hd : d = database
  · simp [hd, DatabaseGrants.heldOn_put]
  · simp [hd]

theorem put_eq_self {o : ObjectGrants} {database : String} {table : Option String}
    {holding : Holding} (h : o.get? database table = some holding) :
    o.put database table holding = o := by
  obtain ⟨d, hd, hheld⟩ := Option.bind_eq_some_iff.1 h
  rw [put, hd, Option.getD_some, DatabaseGrants.put_eq_self hheld, KeyMap.insert_eq_self hd]

theorem heldOn_prune {o : ObjectGrants} (hs : ∀ d t, (o.heldOn d t).Sound)
    (database d : String) (table t : Option String) :
    (o.prune database table).heldOn d t = o.heldOn d t := by
  rw [prune]
  cases hget : o.databases.get? database with
  | none => rfl
  | some e =>
    have heq (t : Option String) : o.heldOn database t = e.heldOn t := by simp [heldOn_eq, hget]
    have hse (t : Option String) : (e.heldOn t).Sound := heq t ▸ hs database t
    have hdrop := DatabaseGrants.heldOn_dropEmpty hse table
    -- No other database is touched, and this one goes only with everything in it.
    by_cases hd : d = database
    · obtain rfl := hd
      change ObjectGrants.heldOn (if _ then _ else _) d t = _
      rw [heq t]
      split
      · rename_i he
        rw [← hdrop t, DatabaseGrants.heldOn_of_isEmpty (fun t => (hdrop t).symm ▸ hse t) he,
          heldOn_eq, KeyMap.get?_erase, if_pos rfl]
        cases t <;> rfl
      · rw [heldOn_eq, KeyMap.get?_insert, if_pos rfl]
        exact hdrop t
    · change ObjectGrants.heldOn (if _ then _ else _) d t = _
      split
      · rw [heldOn_eq, KeyMap.get?_erase, if_neg hd, heldOn_eq]
      · rw [heldOn_eq, KeyMap.get?_insert, if_neg hd, heldOn_eq]

theorem heldOn_add (o : ObjectGrants) (database d : String) (table t : Option String)
    (p : Privilege) (option : Bool) : (o.add database table p option).1.heldOn d t =
      if d = database ∧ t = table then ((o.heldOn database table).grant p option).1
      else o.heldOn d t :=
  heldOn_put o database d table t _

theorem heldOn_remove {o : ObjectGrants} (hs : ∀ d t, (o.heldOn d t).Sound)
    (database d : String) (table t : Option String) (p : Privilege) :
    (o.remove database table p).1.heldOn d t =
      if d = database ∧ t = table then ((o.heldOn database table).revoke p).1
      else o.heldOn d t := by
  cases h : o.get? database table with
  | none =>
    rw [remove, h, heldOn_of_none h, Holding.revoke_empty]
    refine (heldOn_prune hs database d table t).trans ?_
    split
    · rename_i hdt
      rw [hdt.1, hdt.2, heldOn_of_none h]
    · rfl
  | some holding =>
    rw [remove, h, heldOn_of_get? h]
    refine (heldOn_prune ?_ database d table t).trans (heldOn_put o database d table t _)
    intro d t
    rw [heldOn_put]
    split
    · exact (heldOn_of_get? h ▸ hs database table).revoke p
    · exact hs d t

theorem changed_remove (o : ObjectGrants) (database : String) (table : Option String)
    (p : Privilege) :
    (o.remove database table p).2 = ((o.heldOn database table).revoke p).2 := by
  cases h : o.get? database table with
  | none => rw [remove, h, heldOn_of_none h]; exact (Holding.has_empty p).symm
  | some holding => rw [remove, h, heldOn_of_get? h]

theorem heldOn_removeOption (o : ObjectGrants) (database d : String) (table t : Option String)
    (p : Privilege) : (o.removeOption database table p).1.heldOn d t =
      if d = database ∧ t = table then ((o.heldOn database table).revokeOption p).1
      else o.heldOn d t := by
  cases h : o.get? database table with
  | none =>
    rw [removeOption, h, heldOn_of_none h, Holding.revokeOption_empty]
    change o.heldOn d t = _
    split
    · rename_i hdt
      rw [hdt.1, hdt.2, heldOn_of_none h]
    · rfl
  | some holding =>
    rw [removeOption, h, heldOn_of_get? h]
    exact heldOn_put o database d table t _

theorem changed_removeOption (o : ObjectGrants) (database : String) (table : Option String)
    (p : Privilege) :
    (o.removeOption database table p).2 = ((o.heldOn database table).revokeOption p).2 := by
  cases h : o.get? database table with
  | none => rw [removeOption, h, heldOn_of_none h]; exact (Holding.hasOption_empty p).symm
  | some holding => rw [removeOption, h, heldOn_of_get? h]

/-- A check of a table passes by the table or by its database. -/
theorem allows_eq (o : ObjectGrants) (database : String) (table : Option String) (p : Privilege)
    (option : Bool) : o.allows database table p option =
      ((o.heldOn database none).allows p option || (o.heldOn database table).allows p option) := by
  rw [allows, heldOn_eq, heldOn_eq]
  cases h : o.databases.get? database with
  | none => cases table <;> simp [DatabaseGrants.heldOn, DatabaseGrants.get?, DatabaseGrants.empty]
  | some d =>
    cases table with
    | none => simp [DatabaseGrants.heldOn, DatabaseGrants.get?]
    | some table =>
      cases ht : d.tables.get? table <;>
        simp [DatabaseGrants.heldOn, DatabaseGrants.get?, ht]

end ObjectGrants

namespace Grants

def heldOn (g : Grants) : Target → Holding
  | .system => g.system
  | .path pattern => g.paths.heldOn pattern
  | .object database table => g.objects.heldOn database table

structure Sound (g : Grants) : Prop where
  distinct : g.paths.Distinct
  holding : ∀ t, (g.heldOn t).Sound

theorem sound_empty : empty.Sound where
  distinct := List.nodup_nil
  holding t := by
    cases t with
    | system => exact Holding.sound_empty
    | path pattern => exact Holding.sound_empty
    | object database table => cases table <;> exact Holding.sound_empty

@[simp] theorem heldOn_empty (t : Target) : empty.heldOn t = .empty := by
  cases t with
  | system => rfl
  | path pattern => rfl
  | object database table => cases table <;> rfl

theorem allows_iff {g : Grants} (hs : g.Sound) {p : Privilege} {t : Target} {option : Bool} :
    g.allows p t option = true ↔
      ∃ t', t'.covers t = true ∧ (g.heldOn t').allows p option = true := by
  cases t with
  | system =>
    constructor
    · intro h
      exact ⟨.system, rfl, h⟩
    · rintro ⟨t', hcovers, h⟩
      cases t' <;> first | exact h | simp [Target.covers] at hcovers
  | path path =>
    refine (PathGrants.allows_iff hs.distinct).trans ⟨?_, ?_⟩
    · rintro ⟨pattern, hcovers, h⟩
      exact ⟨.path pattern, hcovers, h⟩
    · rintro ⟨t', hcovers, h⟩
      cases t' with
      | path pattern => exact ⟨pattern, hcovers, h⟩
      | system => simp [Target.covers] at hcovers
      | object => simp [Target.covers] at hcovers
  | object database table =>
    -- A table is covered by itself and by its database, a database by itself alone.
    rw [allows, ObjectGrants.allows_eq, Bool.or_eq_true]
    constructor
    · rintro (h | h)
      · exact ⟨.object database none, by simp [Target.covers], h⟩
      · exact ⟨.object database table, by cases table <;> simp [Target.covers], h⟩
    · rintro ⟨t', hcovers, h⟩
      cases t' with
      | system => simp [Target.covers] at hcovers
      | path => simp [Target.covers] at hcovers
      | object database' table' =>
        cases table' with
        | none =>
          obtain rfl : database' = database := by simpa [Target.covers] using hcovers
          exact .inl h
        | some table' =>
          cases table with
          | none => simp [Target.covers] at hcovers
          | some table =>
            obtain ⟨rfl, rfl⟩ : database' = database ∧ table' = table := by
              simpa [Target.covers] using hcovers
            exact .inr h

end Grants

end Warden
