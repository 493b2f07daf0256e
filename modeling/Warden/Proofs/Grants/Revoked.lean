import Warden.Proofs.Grants.Decoded

namespace Warden

open Json

namespace Holding

variable {h : Holding} {p : Privilege}

theorem has_revoke_self (h : Holding) (p : Privilege) : (h.revoke p).1.has p = false := by
  simp [has_revoke]

theorem Sound.hasOption_eq_false (hs : h.Sound) (hp : h.has p = false) : h.hasOption p = false :=
  Bool.eq_false_iff.2 fun hoption => by
    rw [hs p hoption] at hp
    cases hp

/-- What holds a privilege is not empty. -/
theorem isEmpty_of_has (hp : h.has p = true) : h.isEmpty = false := by
  refine Bool.eq_false_iff.2 fun hempty => ?_
  have hno : h.has p = false := PrivilegeSet.contains_of_isEmpty hempty p
  rw [hno] at hp
  cases hp

end Holding

namespace PathGrants

variable {gs : PathGrants} {pattern : Pattern} {p : Privilege}

/-- The entries of a pattern but the first. -/
def repeats (gs : PathGrants) (pattern : Pattern) : PathGrants :=
  (List.filter (fun g => g.pattern = pattern) gs).tail

theorem repeats_cons_self {g : PathGrant} (hg : g.pattern = pattern) :
    repeats (g :: gs) pattern = List.filter (fun g => g.pattern = pattern) gs := by
  rw [repeats, List.filter_cons_of_pos (by simpa using hg), List.tail_cons]

theorem repeats_cons_of_ne {g : PathGrant} (hg : g.pattern ≠ pattern) :
    repeats (g :: gs) pattern = repeats gs pattern := by
  rw [repeats, List.filter_cons_of_neg (by simpa using hg), repeats]

theorem notMem_of_find? (h : gs.find? pattern = none) : ∀ g ∈ gs, g.pattern ≠ pattern := by
  induction gs with
  | nil => exact nofun
  | cons g gs ih =>
    rw [find?_cons] at h
    split at h
    · cases h
    · rename_i hg
      exact List.forall_mem_cons.2 ⟨hg, ih h⟩

theorem pattern_of_mem_repeats {g : PathGrant} (hg : g ∈ gs.repeats pattern) :
    g.pattern = pattern := by
  simpa using (List.mem_filter.1 (List.mem_of_mem_tail hg)).2

theorem mem_of_mem_repeats {g : PathGrant} (hg : g ∈ gs.repeats pattern) : g ∈ gs :=
  (List.mem_filter.1 (List.mem_of_mem_tail hg)).1

/-- Of the entries of a pattern, the first is replaced and the others stay. -/
theorem mem_replace_self {holding : Holding} (h : (gs.find? pattern).isSome) {g : PathGrant}
    (hg : g.pattern = pattern) :
    g ∈ replace pattern holding gs ↔ g = ⟨pattern, holding⟩ ∨ g ∈ gs.repeats pattern := by
  induction gs with
  | nil => cases h
  | cons e gs ih =>
    rw [find?_cons] at h
    by_cases he : e.pattern = pattern
    · rw [replace, if_pos he, repeats_cons_self he, List.mem_cons, List.mem_filter]
      simp [hg]
    · rw [if_neg he] at h
      rw [replace, if_neg he, repeats_cons_of_ne he, List.mem_cons, ih h, or_iff_right]
      rintro rfl
      exact he hg

/-- What is left of a privilege on its own pattern is what the repetitions of the pattern hold. -/
theorem exists_left_iff :
    (∃ g ∈ (gs.revoke pattern p).1, g.pattern = pattern ∧ g.holding.has p = true) ↔
      ∃ g ∈ gs.repeats pattern, g.holding.has p = true := by
  -- An entry that holds the privilege is not swept out.
  have hswept (entries : PathGrants) (g : PathGrant) (hp : g.holding.has p = true) :
      g ∈ List.filter (!·.isEmpty) entries ↔ g ∈ entries := by
    rw [List.mem_filter, PathGrant.isEmpty, Holding.isEmpty_of_has hp]
    simp
  cases hfind : gs.find? pattern with
  | none =>
    rw [revoke, hfind]
    have hno : ∀ g ∈ gs, g.pattern ≠ pattern := notMem_of_find? hfind
    constructor
    · rintro ⟨g, hg, hpattern, -⟩
      exact absurd hpattern (hno g (List.mem_filter.1 hg).1)
    · rintro ⟨g, hg, -⟩
      exact absurd (pattern_of_mem_repeats hg) (hno g (mem_of_mem_repeats hg))
  | some holding =>
    have hsome : (gs.find? pattern).isSome := by rw [hfind, Option.isSome_some]
    rw [revoke, hfind]
    constructor
    · rintro ⟨g, hg, hpattern, hp⟩
      rcases (mem_replace_self hsome hpattern).1 ((hswept _ g hp).1 hg) with rfl | hrepeat
      · rw [Holding.has_revoke_self] at hp
        cases hp
      · exact ⟨g, hrepeat, hp⟩
    · rintro ⟨g, hg, hp⟩
      have hpattern : g.pattern = pattern := pattern_of_mem_repeats hg
      exact ⟨g, (hswept _ g hp).2 ((mem_replace_self hsome hpattern).2 (.inr hg)), hpattern, hp⟩

end PathGrants

namespace Grants

variable {g : Grants} {p : Privilege}

/-- No entry of the pattern holds the privilege or its grant option, and who passes a check of them on
the pattern passes it by another pattern. -/
structure Freed (g : Grants) (p : Privilege) (pattern : Pattern) : Prop where
  entry : ∀ e ∈ g.paths, e.pattern = pattern →
    e.holding.has p = false ∧ e.holding.hasOption p = false
  check : ∀ option, g.allows p (.path pattern) option = true →
    ∃ e ∈ g.paths, e.pattern ≠ pattern ∧ e.allows pattern p option = true

theorem freed_iff (h : g.Lawful) {pattern : Pattern} : g.Freed p pattern ↔
    ¬∃ e ∈ g.paths, e.pattern = pattern ∧ e.holding.has p = true := by
  constructor
  · rintro hfreed ⟨e, he, hpattern, hp⟩
    rw [(hfreed.entry e he hpattern).1] at hp
    cases hp
  · intro hnone
    have hentry : ∀ e ∈ g.paths, e.pattern = pattern →
        e.holding.has p = false ∧ e.holding.hasOption p = false := fun e he hpattern => by
      have hp : e.holding.has p = false :=
        Bool.eq_false_iff.2 fun hp => hnone ⟨e, he, hpattern, hp⟩
      exact ⟨hp, (h.paths e he).sound.hasOption_eq_false hp⟩
    refine ⟨hentry, fun option hallows => ?_⟩
    obtain ⟨e, he, hpasses⟩ := List.any_eq_true.1 hallows
    refine ⟨e, he, fun hpattern => ?_, hpasses⟩
    obtain ⟨hp, hoption⟩ := hentry e he hpattern
    cases option <;> simp [PathGrant.allows, Holding.allows, hp, hoption] at hpasses

/-- A revocation on a path is carried out on whatever grants were read, and it frees the pattern of the
privilege exactly when no repetition of the pattern holds it. -/
theorem revoke_freed_iff (h : g.Decoded) (hp : p.scope = .path) (pattern : Pattern) :
    ∃ g' changed, (revoke p (.path pattern)).run g = (.ok changed, g') ∧
      (g'.Freed p pattern ↔ ¬∃ e ∈ g.paths.repeats pattern, e.holding.has p = true) := by
  have hrevoke := run_revoke_of_scope (g := g) (t := .path pattern) hp
  have hlawful : (g.taken p (.path pattern)).1.Lawful := h.lawful.taken p (.path pattern)
  exact ⟨_, _, hrevoke, (freed_iff hlawful).trans (not_congr PathGrants.exists_left_iff)⟩

/-- A text that has a path twice. The second entry holds another privilege, so what is revoked is gone
and the other is left. -/
theorem revoke_freed_of_repeated :
    let ann : Json := .object [("name", .string "ann"),
      ("path_privileges", .array [
        .object [("pattern", .string "root.sg"), ("privileges", .array [.string "READ_DATA"]),
          ("grant_option", .array [.string "READ_DATA"])],
        .object [("pattern", .string "root.sg"), ("privileges", .array [.string "WRITE_DATA"])]])]
    let u := (User.ofJson .document ann).toOption.getD (.openIdentity "")
    let sg := (Pattern.parse "root.sg").toOption.getD .everything
    User.ofJson .document ann = .ok u ∧ Privilege.readData.scope = .path ∧
      ∃ g' changed, (revoke .readData (.path sg)).run u.grants = (.ok changed, g') ∧
        g'.Freed .readData sg := by
  intro ann u sg
  have hu : User.ofJson .document ann = .ok u := by rfl
  have hscope : Privilege.readData.scope = .path := rfl
  obtain ⟨g', changed, hrevoke, hfreed⟩ := revoke_freed_iff (.user hu) hscope sg
  exact ⟨hu, hscope, g', changed, hrevoke, hfreed.2 (by decide +kernel)⟩

/-- A text that has a path twice, with one privilege in both entries. It is revoked, and this is
reported as a change, but the second entry goes on to grant it. -/
theorem not_freed_of_repeated :
    let read : Json := .object [("pattern", .string "root.sg"),
      ("privileges", .array [.string "READ_DATA"])]
    let ann : Json := .object [("name", .string "ann"), ("path_privileges", .array [read, read])]
    let u := (User.ofJson .document ann).toOption.getD (.openIdentity "")
    let sg := (Pattern.parse "root.sg").toOption.getD .everything
    decodeChars User.ofJson (ann.text compact).toList = .ok u ∧
      ∃ g', (revoke .readData (.path sg)).run u.grants = (.ok true, g') ∧
        g'.allows .readData (.path sg) false = true ∧ ¬g'.Freed .readData sg := by
  intro read ann u sg
  have hu : decodeChars User.ofJson (ann.text compact).toList = .ok u :=
    (decodeChars_text _ blank_compact rfl).trans (by rfl)
  let g' := { u.grants with paths := (u.grants.paths.revoke sg .readData).1 }
  have hrevoke : (revoke .readData (.path sg)).run u.grants = (.ok true, g') :=
    run_revoke_of_scope rfl
  have hleft : ∃ e ∈ g'.paths, e.pattern = sg ∧ e.holding.has .readData = true := by
    decide +kernel
  refine ⟨hu, g', hrevoke, by decide +kernel, fun hfreed => ?_⟩
  obtain ⟨e, he, hpattern, hp⟩ := hleft
  rw [(hfreed.entry e he hpattern).1] at hp
  cases hp

end Grants

end Warden
