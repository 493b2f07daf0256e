import Mathlib.Data.List.Basic
import Warden.Authority.Backends
import Warden.Authority.Management
import Warden.Proofs.Store.Disk

namespace Warden.Authority

open Warden.Action Disk

def onDisk (config : Config) : Authority Disk :=
  ⟨config.adminName, config.minNameLength, config.minPasswordLength, Disk.backend⟩

abbrev loadUser (username : String) (d : Disk) : Except Fault (Option User) :=
  Folder.load User.form ["users"] username d

abbrev loadRole (rolename : String) (d : Disk) : Except Fault (Option Role) :=
  Folder.load Role.form ["roles"] rolename d

/-- A role cannot be taken from all the users of a list: one of them cannot be read, or has the role
and cannot be written back. -/
inductive Stuck (rolename : String) : Disk → List String → Prop
  | unreadable {d username usernames fault} (hload : loadUser username d = .error fault) :
      Stuck rolename d (username :: usernames)
  | unwritable {d username usernames u fault} (hload : loadUser username d = .ok (some u))
      (hrole : u.hasRole rolename = true)
      (hsave : Folder.save User.form ["users"] (u.removeRole rolename).1 d = .error fault) :
      Stuck rolename d (username :: usernames)
  | missing {d username usernames} (hload : loadUser username d = .ok none)
      (hrest : Stuck rolename d usernames) : Stuck rolename d (username :: usernames)
  | other {d username usernames u} (hload : loadUser username d = .ok (some u))
      (hrole : u.hasRole rolename = false) (hrest : Stuck rolename d usernames) :
      Stuck rolename d (username :: usernames)
  | stripped {d d' username usernames u} (hload : loadUser username d = .ok (some u))
      (hrole : u.hasRole rolename = true)
      (hsave : Folder.save User.form ["users"] (u.removeRole rolename).1 d = .ok d')
      (hrest : Stuck rolename d' usernames) : Stuck rolename d (username :: usernames)

/-- A role can be removed, but not be taken from the users after that. -/
def Torn (rolename : String) (d : Disk) : Prop :=
  ∃ d', Folder.delete ["roles"] rolename d = .ok (true, d') ∧
    ((∃ fault, Folder.names ["users"] d' = .error fault) ∨
      ∃ usernames, Folder.names ["users"] d' = .ok usernames ∧ Stuck rolename d' usernames)

variable {config : Config} {rolename username : String} {usernames : List String} {d d' : Disk}

theorem run_saveUser_onDisk (u : User) : ((onDisk config).saveUser u).run d =
    match Folder.save User.form ["users"] u d with
    | .error fault => (.error fault, d)
    | .ok d' => (.ok (), d') := by
  rw [saveUser, run_change]
  cases hsave : Folder.save User.form ["users"] u d with
  | error fault =>
    have hfails : (onDisk config).backend.users.save u d = .error fault := hsave
    rw [hfails]
    rfl
  | ok d' =>
    have hsaves : (onDisk config).backend.users.save u d = .ok d' := hsave
    rw [hsaves]
    rfl

theorem run_stripRole_cons : ((onDisk config).stripRole rolename (username :: usernames)).run d =
    match loadUser username d with
    | .error fault => (.error fault, d)
    | .ok none => ((onDisk config).stripRole rolename usernames).run d
    | .ok (some u) =>
      if u.hasRole rolename then
        match Folder.save User.form ["users"] (u.removeRole rolename).1 d with
        | .error fault => (.error fault, d)
        | .ok d' => ((onDisk config).stripRole rolename usernames).run d'
      else ((onDisk config).stripRole rolename usernames).run d := by
  have hload : ((onDisk config).user? username).run d = (loadUser username d, d) := rfl
  rw [stripRole, run_bind, hload]
  cases loadUser username d with
  | error fault => rfl
  | ok found =>
    cases found with
    | none => rfl
    | some u =>
      have hchanged : (u.removeRole rolename).2 = u.hasRole rolename := rfl
      dsimp only
      rw [hchanged]
      cases u.hasRole rolename with
      | false => rfl
      | true =>
        rw [if_pos rfl, if_pos rfl, run_bind, run_saveUser_onDisk]
        cases Folder.save User.form ["users"] (u.removeRole rolename).1 d <;> rfl

theorem stuck_cons : Stuck rolename d (username :: usernames) ↔
    match loadUser username d with
    | .error _ => True
    | .ok none => Stuck rolename d usernames
    | .ok (some u) =>
      if u.hasRole rolename then
        match Folder.save User.form ["users"] (u.removeRole rolename).1 d with
        | .error _ => True
        | .ok d' => Stuck rolename d' usernames
      else Stuck rolename d usernames := by
  constructor
  · intro h
    cases h with
    | unreadable hload => simp only [hload]
    | unwritable hload hrole hsave => simp only [hload, hrole, hsave, if_true]
    | missing hload hrest => simpa only [hload] using hrest
    | other hload hrole hrest =>
      simpa only [hload, hrole, Bool.false_eq_true, if_false] using hrest
    | stripped hload hrole hsave hrest => simpa only [hload, hrole, hsave, if_true] using hrest
  · intro h
    split at h
    · exact .unreadable ‹_›
    · exact .missing ‹_› h
    · split at h
      · split at h
        · exact .unwritable ‹_› ‹_› ‹_›
        · exact .stripped ‹_› ‹_› ‹_› h
      · exact .other ‹_› (Bool.eq_false_iff.2 ‹_›) h

/-- Taking a role from users fails where it gets stuck. -/
theorem stripRole_fails_iff (config : Config) : (∃ fault,
    (((onDisk config).stripRole rolename usernames).run d).1 = .error fault) ↔
      Stuck rolename d usernames := by
  induction usernames generalizing d with
  | nil => exact iff_of_false (fun ⟨_, h⟩ => nomatch h) nofun
  | cons username usernames ih =>
    rw [run_stripRole_cons, stuck_cons]
    rcases loadUser username d with fault | _ | u
    · exact iff_of_true ⟨fault, rfl⟩ trivial
    · exact ih
    · dsimp only
      split
      · rcases Folder.save User.form ["users"] (u.removeRole rolename).1 d with fault | d'
        · exact iff_of_true ⟨fault, rfl⟩ trivial
        · exact ih
      · exact ih

theorem find?_stripRole (config : Config) (rolename : String) (usernames : List String) (d : Disk)
    (path : List String) : (((onDisk config).stripRole rolename usernames).run d).2.find?
      ("roles" :: path) = d.find? ("roles" :: path) := by
  induction usernames generalizing d with
  | nil => rfl
  | cons username usernames ih =>
    rw [run_stripRole_cons]
    split
    · rfl
    · exact ih d
    · split
      · split
        · rfl
        · rename_i d' hsave
          obtain ⟨file, -, hagree⟩ := Folder.of_save hsave
          exact (ih d').trans (hagree _ (by simp) (by simp))
      · exact ih d

theorem run_dropRole_onDisk : ((onDisk config).dropRole rolename).run d =
    match Folder.delete ["roles"] rolename d with
    | .error fault => (.error fault, d)
    | .ok (false, d') => (.ok false, d')
    | .ok (true, d') =>
      match Folder.names ["users"] d' with
      | .error fault => (.error fault, d')
      | .ok usernames =>
        match ((onDisk config).stripRole rolename usernames).run d' with
        | (.error fault, d') => (.error fault, d')
        | (.ok (), d') => (.ok true, d') := by
  have hdelete : (onDisk config).backend.roles.delete rolename d =
      Folder.delete ["roles"] rolename d := rfl
  rw [dropRole, run_bind, run_change, hdelete]
  cases Folder.delete ["roles"] rolename d with
  | error fault => rfl
  | ok result =>
    obtain ⟨removed, d'⟩ := result
    cases removed with
    | false => rfl
    | true =>
      have hnames : (onDisk config).listUsers.run d' = (Folder.names ["users"] d', d') := rfl
      dsimp only
      rw [if_pos rfl, run_bind, hnames]
      cases Folder.names ["users"] d' with
      | error fault => rfl
      | ok usernames =>
        dsimp only
        rw [run_bind]
        rcases ((onDisk config).stripRole rolename usernames).run d' with ⟨_ | _, d''⟩ <;> rfl

/-- A role that is not there is not removed, whoever still has it. -/
theorem run_dropRole_missing (h : loadRole rolename d = .ok none) :
    ((onDisk config).dropRole rolename).run d = (.ok false, d) := by
  obtain ⟨file, hfile, hfound⟩ := Folder.of_load_none h
  rw [run_dropRole_onDisk, Folder.delete_eq hfile, hfound]

theorem ne_of_find? {path : List String} (h : (d.find? path).isSome = true)
    (h' : (d'.find? path).isSome = false) : d' ≠ d := by
  rintro rfl
  rw [h] at h'
  cases h'

/-- A removal that gets stuck fails with the role gone, so that another try does nothing. -/
theorem run_dropRole_torn (config : Config) (h : Torn rolename d) :
    ∃ fault d', ((onDisk config).dropRole rolename).run d = (.error fault, d') ∧
      d' ≠ d ∧ ((onDisk config).dropRole rolename).run d' = (.ok false, d') := by
  obtain ⟨d₁, hdelete, hstuck⟩ := h
  obtain ⟨file, hfile, hfound, hgone, -⟩ := Folder.of_delete_true hdelete
  have hlost {d' : Disk} (h : d'.find? ["roles", file] = none) :
      d' ≠ d ∧ ((onDisk config).dropRole rolename).run d' = (.ok false, d') := by
    refine ⟨ne_of_find? hfound ?_, run_dropRole_missing (Folder.load_of_find? hfile h)⟩
    exact congrArg Option.isSome h
  rcases hstuck with ⟨fault, hnames⟩ | ⟨usernames, hnames, hstuck⟩
  · refine ⟨fault, d₁, ?_, hlost hgone⟩
    simp only [run_dropRole_onDisk, hdelete, hnames]
  · obtain ⟨fault, hfails⟩ := (stripRole_fails_iff config).2 hstuck
    have hroles := find?_stripRole config rolename usernames d₁ [file]
    cases hstrip : ((onDisk config).stripRole rolename usernames).run d₁ with
    | mk result d' =>
      rw [hstrip] at hfails hroles
      obtain rfl : result = .error fault := hfails
      refine ⟨fault, d', ?_, hlost (hroles.trans hgone)⟩
      simp only [run_dropRole_onDisk, hdelete, hnames, hstrip]

/-- A removal that does not get stuck succeeds, or changes nothing. -/
theorem run_dropRole_whole (config : Config) (h : ¬Torn rolename d) :
    (∃ d', ((onDisk config).dropRole rolename).run d = (.ok true, d')) ∨
      ∃ result, ((onDisk config).dropRole rolename).run d = (result, d) := by
  rw [run_dropRole_onDisk]
  cases hdelete : Folder.delete ["roles"] rolename d with
  | error fault => exact .inr ⟨_, rfl⟩
  | ok result =>
    obtain ⟨removed, d'⟩ := result
    cases removed with
    | false =>
      obtain rfl : d' = d := Folder.of_delete_false hdelete
      exact .inr ⟨_, rfl⟩
    | true =>
      cases hnames : Folder.names ["users"] d' with
      | error fault => exact absurd ⟨d', hdelete, .inl ⟨fault, hnames⟩⟩ h
      | ok usernames =>
        dsimp only
        rw [hnames]
        dsimp only
        cases hstrip : ((onDisk config).stripRole rolename usernames).run d' with
        | mk result d'' =>
          cases result with
          | ok => exact .inl ⟨d'', rfl⟩
          | error fault =>
            have hstuck : Stuck rolename d' usernames :=
              (stripRole_fails_iff config).1 ⟨fault, congrArg Prod.fst hstrip⟩
            exact absurd ⟨d', hdelete, .inr ⟨usernames, hnames, hstuck⟩⟩ h

/-- On a disk, the removal of a role that fails changes nothing, unless it gets stuck. -/
theorem dropRole_unchanged_iff (config : Config) (rolename : String) (d : Disk) :
    ((∀ fault d', ((onDisk config).dropRole rolename).run d = (.error fault, d') → d' = d) ↔
      ¬Torn rolename d) ∧
    ((∀ fault d', ((onDisk config).apply (.dropRole rolename)).run d = (.error fault, d') →
      d' = d) ↔ ¬Torn rolename d) := by
  rw [apply, run_orFail]
  by_cases htorn : Torn rolename d
  · obtain ⟨fault, d', hrun, hchanged, -⟩ := run_dropRole_torn config htorn
    rw [hrun]
    constructor
    · exact iff_of_false (fun h => hchanged (h fault d' rfl)) (not_not_intro htorn)
    · exact iff_of_false (fun h => hchanged (h fault d' rfl)) (not_not_intro htorn)
  · have hsame {α : Type} {result : Except Fault α} :
        ∀ fault d', (result, d) = (.error fault, d') → d' = d :=
      fun _ _ h => (congrArg Prod.snd h).symm
    rcases run_dropRole_whole config htorn with ⟨d', hrun⟩ | ⟨result, hrun⟩
    · rw [hrun]
      exact ⟨iff_of_true nofun htorn, iff_of_true nofun htorn⟩
    · rw [hrun]
      refine ⟨iff_of_true hsame htorn, iff_of_true ?_ htorn⟩
      rcases result with fault | _ | _
      · exact hsame
      · exact hsame
      · exact hsame

theorem exists_fault {α : Type} {result : Except Fault α} (h : result.toOption.isNone = true) :
    ∃ fault, result = .error fault := by
  cases result with
  | error fault => exact ⟨fault, rfl⟩
  | ok value => cases h

theorem exists_of_any {result : Except Fault (Option User)} {test : User → Bool}
    (h : result.toOption.join.any test = true) : ∃ u, result = .ok (some u) ∧ test u = true := by
  rcases result with fault | _ | u
  · cases h
  · cases h
  · exact ⟨u, rfl, h⟩

/-- A user file that cannot be read stops the removal before a member that comes after it, and the
member is one again as soon as the role is made anew. -/
theorem dropRole_changes_and_fails :
    let d : Disk := .folder [
      ("roles", .folder [
        ("role1.json", .file (Text.bytes "\x7b\"name\":\"role1\"\x7d"))]),
      ("users", .folder [
        ("broken.json", .file (Text.bytes "\x7b")),
        ("user1.json", .file (Text.bytes "\x7b\"name\":\"user1\",\"roles\":[\"role1\"]\x7d"))])]
    let d' := (((onDisk .standard).dropRole "role1").run d).2
    let d'' := (((onDisk .standard).createRole "role1").run d').2
    (∃ fault, (((onDisk .standard).dropRole "role1").run d).1 = .error fault) ∧ d' ≠ d ∧
      loadRole "role1" d' = .ok none ∧
      (((onDisk .standard).createRole "role1").run d').1 = .ok true ∧
      ∃ u, loadUser "user1" d'' = .ok (some u) ∧ u.hasRole "role1" = true := by
  intro d d' d''
  let d₁ : Disk := .folder [
    ("roles", .folder []),
    ("users", .folder [
      ("broken.json", .file (Text.bytes "\x7b")),
      ("user1.json", .file (Text.bytes "\x7b\"name\":\"user1\",\"roles\":[\"role1\"]\x7d"))])]
  -- The role is gone by the time the users are listed, the unreadable one first.
  have hdelete : Folder.delete ["roles"] "role1" d = .ok (true, d₁) := by rfl
  have hnames : Folder.names ["users"] d₁ = .ok ["broken", "user1"] := by
    have hfiles : d₁.names? ["users"] = some ["broken.json", "user1.json"] := by decide +kernel
    rw [Folder.names_eq hfiles]
    exact congrArg Except.ok (List.mergeSort_of_pairwise (by decide +kernel))
  obtain ⟨fault, hunread⟩ : ∃ fault, loadUser "broken" d₁ = .error fault :=
    exists_fault (by decide +kernel)
  have hrun : ((onDisk .standard).dropRole "role1").run d = (.error fault, d₁) := by
    simp only [run_dropRole_onDisk, hdelete, hnames, run_stripRole_cons, hunread]
  have hleft : d' = d₁ := congrArg Prod.snd hrun
  have hfound : (d.find? ["roles", "role1.json"]).isSome = true := by decide +kernel
  have hlost : (d₁.find? ["roles", "role1.json"]).isSome = false := by decide +kernel
  have hmember : (loadUser "user1" (((onDisk .standard).createRole "role1").run d₁).2).toOption.join.any
      (·.hasRole "role1") = true := by decide +kernel
  refine ⟨⟨fault, congrArg Prod.fst hrun⟩, ?_⟩
  simp only [d'', hleft]
  exact ⟨ne_of_find? hfound hlost, by decide +kernel, by decide +kernel, exists_of_any hmember⟩

theorem stuck_iff_unreadable (hdistinct : usernames.Nodup)
    (hnamed : ∀ username ∈ usernames, ∀ u, loadUser username d = .ok (some u) →
      u.name = username) :
    Stuck rolename d usernames ↔
      ∃ username ∈ usernames, ∃ fault, loadUser username d = .error fault := by
  induction usernames generalizing d with
  | nil => exact iff_of_false nofun fun ⟨_, hmem, _⟩ => nomatch hmem
  | cons username usernames ih =>
    obtain ⟨hnew, hdistinct⟩ := List.nodup_cons.1 hdistinct
    obtain ⟨hhead, hnamed⟩ := List.forall_mem_cons.1 hnamed
    rw [stuck_cons, List.exists_mem_cons_iff]
    cases hload : loadUser username d with
    | error fault => exact iff_of_true trivial (.inl ⟨fault, rfl⟩)
    | ok found =>
      rw [or_iff_right fun ⟨_, h⟩ => nomatch h]
      cases found with
      | none => exact ih hdistinct hnamed
      | some u =>
        dsimp only
        split
        -- The user can be written back, and the others are read as before.
        · have hname : (u.removeRole rolename).1.name = username := hhead u hload
          obtain ⟨d', hsave⟩ := Folder.exists_save hload (u.removeRole rolename).1 hname
          obtain ⟨file, hfile, hagree⟩ := Folder.of_save hsave
          have hsame : ∀ other ∈ usernames, loadUser other d' = loadUser other d := by
            intro other hmem
            refine Folder.load_of_agreeOff hagree hfile ?_
            rintro rfl
            exact hnew (hname ▸ hmem)
          rw [hsave]
          refine (ih hdistinct fun other hmem u hu => ?_).trans (exists_congr fun other => ?_)
          · exact hnamed other hmem u (hsame other hmem ▸ hu)
          · exact and_congr_right fun hmem => by rw [hsame other hmem]
        · exact ih hdistinct hnamed

theorem torn_iff_unreadable (hnamed : ∀ username u, loadUser username d = .ok (some u) →
    u.name = username) :
    Torn rolename d ↔ (∃ d', Folder.delete ["roles"] rolename d = .ok (true, d')) ∧
      ∀ usernames, Folder.names ["users"] d = .ok usernames →
        ∃ username ∈ usernames, ∃ fault, loadUser username d = .error fault := by
  have hwalk {d' : Disk} (hdelete : Folder.delete ["roles"] rolename d = .ok (true, d')) :
      ((∃ fault, Folder.names ["users"] d' = .error fault) ∨
        ∃ usernames, Folder.names ["users"] d' = .ok usernames ∧ Stuck rolename d' usernames) ↔
      ∀ usernames, Folder.names ["users"] d = .ok usernames →
        ∃ username ∈ usernames, ∃ fault, loadUser username d = .error fault := by
    obtain ⟨file, -, -, -, hagree⟩ := Folder.of_delete_true hdelete
    have hnames : Folder.names ["users"] d' = Folder.names ["users"] d :=
      Folder.names_congr (hagree _ (by simp) (by simp))
    have hload (username : String) : loadUser username d' = loadUser username d :=
      Folder.load_congr fun _ _ => hagree _ (by simp) (by simp)
    rw [hnames]
    cases hlisted : Folder.names ["users"] d with
    | error fault => exact iff_of_true (.inl ⟨fault, rfl⟩) nofun
    | ok usernames =>
      have hstuck : Stuck rolename d' usernames ↔ _ :=
        stuck_iff_unreadable (Folder.nodup_names hlisted) fun username _ u hu =>
          hnamed username u (hload username ▸ hu)
      simpa [hload] using hstuck
  constructor
  · rintro ⟨d', hdelete, hstuck⟩
    exact ⟨⟨d', hdelete⟩, (hwalk hdelete).1 hstuck⟩
  · rintro ⟨⟨d', hdelete⟩, hstuck⟩
    exact ⟨d', hdelete, (hwalk hdelete).2 hstuck⟩

end Warden.Authority
