import Warden.Codec.Principal
import Warden.Proofs.Grants.Changes
import Warden.Proofs.Json.Ensures
import Warden.Proofs.Json.RoundTrip

namespace Warden

open Json

namespace Holding

theorem sound_of_ofParts {held grantable : PrivilegeSet} {h : Holding}
    (hh : ofParts held grantable = .ok h) : h.Sound := by
  rw [ofParts] at hh
  split at hh
  · rename_i hsubset
    obtain rfl := Except.ok.inj hh
    exact fun p hp => PrivilegeSet.subset_iff.1 hsubset p hp
  · cases hh

theorem ofJson_sound : Ensures ofJson Sound := by
  intro medium j h hh
  obtain ⟨parts, -, hh⟩ := Fault.of_bind_ok hh
  exact sound_of_ofParts (of_checked hh)

end Holding

namespace PathGrant

theorem scope_of_checkScopes {ps : List Privilege} (h : checkScopes ps = .ok ()) :
    ∀ p ∈ ps, p.scope = .path := by
  induction ps with
  | nil => exact nofun
  | cons p ps ih =>
    obtain ⟨_, hp, hps⟩ := Fault.of_bind_ok h
    exact List.forall_mem_cons.2 ⟨Privilege.scope_of_check hp, ih hps⟩

theorem pathwise_of_ofParts {pattern : Pattern} {held grantable : PrivilegeSet} {g : PathGrant}
    (hg : ofParts pattern held grantable = .ok g) : g.holding.Pathwise := by
  obtain ⟨_, hscopes, hg⟩ := Fault.of_bind_ok hg
  split at hg
  · rename_i hsubset
    obtain rfl := Except.ok.inj hg
    constructor
    · exact fun p hp => PrivilegeSet.subset_iff.1 hsubset p hp
    · exact fun {p} hp => scope_of_checkScopes hscopes p (PrivilegeSet.mem_toList.2 hp)
  · cases hg

theorem ofJson_pathwise : Ensures ofJson fun g => g.holding.Pathwise := by
  intro medium j g hg
  obtain ⟨parts, -, hg⟩ := Fault.of_bind_ok hg
  exact pathwise_of_ofParts (of_checked hg)

end PathGrant

/-- The tables are read for themselves, and what is held on the database is what they leave. -/
theorem DatabaseGrants.ofJson_sound : Ensures ofJson Sound := by
  have htables : ∀ row : Row, (row.withDefault "tables" .empty (decodeMap Holding.ofJson)).Ensures
      fun tables => ∀ e ∈ tables.entries, e.2.Sound := fun row =>
    Row.withDefault_ensures nofun Holding.ofJson_sound.decodeMap
  have hspread : Ensures (decodeSpread ["tables"]
      (·.withDefault "tables" .empty (decodeMap Holding.ofJson)) Holding.parts)
      fun parts => (∀ e ∈ parts.1.entries, e.2.Sound) ∧ True :=
    Ensures.decodeSpread htables fun _ => .trivial _
  intro medium j d hd
  obtain ⟨⟨tables, held, grantable⟩, hparts, hd⟩ := Fault.of_bind_ok hd
  obtain ⟨own, hown, hd⟩ := Fault.of_bind_ok hd
  obtain rfl := Except.ok.inj hd
  exact ⟨Holding.sound_of_ofParts (of_checked hown), (hspread _ _ _ hparts).1⟩

theorem ObjectGrants.ofJson_lawful : Ensures ofJson Lawful := by
  intro medium j o ho
  obtain ⟨databases, hdatabases, rfl⟩ := Fault.of_map_ok ho
  exact DatabaseGrants.ofJson_sound.decodeMap _ _ _ hdatabases

namespace Grants

theorem parts_lawful (row : Row) : (parts row).Ensures Lawful := by
  have hsystem : (row.withDefault "system" .empty Holding.ofJson).Ensures Holding.Sound :=
    Row.withDefault_ensures Holding.sound_empty Holding.ofJson_sound
  have hpaths : (row.withDefault "path_privileges" [] (decodeList PathGrant.ofJson)).Ensures
      PathGrants.Lawful := Row.withDefault_ensures nofun PathGrant.ofJson_pathwise.decodeList
  have hobjects : (row.withDefault "object_privileges" .empty ObjectGrants.ofJson).Ensures
      ObjectGrants.Lawful := Row.withDefault_ensures nofun ObjectGrants.ofJson_lawful
  rw [parts, Reading.map_eq]
  refine Reading.Ensures.seq (Reading.Ensures.seq (hsystem.map ?_) hpaths) hobjects
  exact fun system hs paths hp objects ho => ⟨hs, hp, ho⟩

theorem ofJson_lawful : Ensures ofJson Lawful := Ensures.decodeRecord parts_lawful

end Grants

theorem Role.ofJson_lawful : Ensures ofJson fun r => r.grants.Lawful := by
  have hspread : Ensures (decodeSpread ["name"] (·.required "name" decodeText) Grants.parts)
      fun parts => True ∧ parts.2.Lawful :=
    Ensures.decodeSpread (fun _ => .trivial _) Grants.parts_lawful
  intro medium j r hr
  obtain ⟨parts, hparts, hr⟩ := Fault.of_bind_ok hr
  obtain rfl := Except.ok.inj hr
  exact (hspread _ _ _ hparts).2

/-- The own fields of a user take the grants as they are. -/
theorem User.grants_of_parts (row : Row) :
    (parts row).Ensures fun build => ∀ grants, (build grants).grants = grants := by
  rw [parts, Reading.map_eq]
  refine .seq (.seq (.seq ((Reading.Ensures.trivial _).map ?_) (.trivial _)) (.trivial _))
    (.trivial _)
  exact fun _ _ _ _ _ _ _ _ _ => rfl

theorem User.ofJson_lawful : Ensures ofJson fun u => u.grants.Lawful := by
  have hspread : Ensures (decodeSpread names parts Grants.parts)
      fun parts => (∀ grants, (parts.1 grants).grants = grants) ∧ parts.2.Lawful :=
    Ensures.decodeSpread User.grants_of_parts Grants.parts_lawful
  intro medium j u hu
  obtain ⟨⟨build, grants⟩, hparts, hu⟩ := Fault.of_bind_ok hu
  obtain rfl := Except.ok.inj hu
  obtain ⟨hbuild, hgrants⟩ := hspread _ _ _ hparts
  rw [hbuild]
  exact hgrants

namespace Grants

/-- Grants that a text gave, by themselves or as those of a user or a role, wherever they stood. -/
inductive Decoded : Grants → Prop
  | alone {medium : Medium} {j : Json} {g : Grants} (h : ofJson medium j = .ok g) : Decoded g
  | user {medium : Medium} {j : Json} {u : User} (h : User.ofJson medium j = .ok u) :
    Decoded u.grants
  | role {medium : Medium} {j : Json} {r : Role} (h : Role.ofJson medium j = .ok r) :
    Decoded r.grants

variable {g : Grants}

theorem Decoded.lawful (h : g.Decoded) : g.Lawful := by
  cases h with
  | alone h => exact ofJson_lawful _ _ _ h
  | user h => exact User.ofJson_lawful _ _ _ h
  | role h => exact Role.ofJson_lawful _ _ _ h

/-- Grants as they come about, from nothing or from a text and then change by change. -/
inductive Built : Grants → Prop
  | empty : Built empty
  | decoded {g : Grants} (h : g.Decoded) : Built g
  | after {g : Grants} (h : g.Built) (c : Change) : Built (g.after c)

theorem Built.afterAll (h : g.Built) (changes : List Change) :
    (changes.foldl Grants.after g).Built := by
  induction changes generalizing g with
  | nil => exact h
  | cons c changes ih => exact ih (h.after c)

theorem Built.lawful (h : g.Built) : g.Lawful := by
  induction h with
  | empty => exact lawful_empty
  | decoded h => exact h.lawful
  | after _ c ih => exact ih.after c

/-- Whatever was read and whatever is then changed, refused changes included: no grant option goes
beyond what is held beside it, paths hold what belongs on paths, and so whoever passes a check for
the grant option passes it for the privilege. -/
theorem lawful_after_decoded (h : g.Decoded) (changes : List Change) :
    (changes.foldl after g).Lawful ∧
      ∀ p target, (changes.foldl after g).allows p target true = true →
        (changes.foldl after g).allows p target false = true := by
  have hlawful : (changes.foldl after g).Lawful := h.lawful.afterAll changes
  exact ⟨hlawful, fun p target hp => hlawful.allows_of_option hp⟩

/-- A text that has a path twice, first with a grant and then with none, and an empty table. One of
the changes is refused, as its privilege is not held. -/
theorem lawful_after_repeated :
    let ann : Json := .object [("name", .string "ann"),
      ("path_privileges", .array [
        .object [("pattern", .string "root.sg"), ("privileges", .array [.string "READ_DATA"])],
        .object [("pattern", .string "root.sg"), ("privileges", .array [])]]),
      ("object_privileges", .object [("db", .object [("tables", .object [("t", .object [])])])])]
    let u := (User.ofJson .document ann).toOption.getD (.openIdentity "")
    let sg := (Pattern.parse "root.sg").toOption.getD .everything
    let changes : List Change := [.grantOption .writeData (.path sg),
      .grantOption .readData (.path sg), .grant .select (.object "db" (some "t")) true]
    decodeChars User.ofJson (ann.text compact).toList = .ok u ∧ u.grants.paths.length = 2 ∧
      (changes.foldl after u.grants).Lawful ∧
      (changes.foldl after u.grants).allows .readData (.path sg) false = true := by
  intro ann u sg changes
  have hu : decodeChars User.ofJson (ann.text compact).toList = .ok u :=
    (decodeChars_text _ blank_compact rfl).trans (by rfl)
  obtain ⟨hlawful, hoption⟩ := lawful_after_decoded (.user (of_decodeChars hu)) changes
  exact ⟨hu, by decide +kernel, hlawful, hoption .readData (.path sg) (by decide +kernel)⟩

end Grants

end Warden
