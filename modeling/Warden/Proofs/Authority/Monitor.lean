import Mathlib.Data.Finset.Basic
import Warden.Proofs.Authority.Frame

namespace Warden

namespace Authority

inductive Call
  | operation (o : Operation)
  | createOpenIdUser (username : String)
  deriving DecidableEq

/-- The answer tells whether the call did what it is for. -/
def perform {σ : Type} (a : Authority σ) : Call → Action σ Bool
  | .operation o => do
    a.apply o
    return true
  | .createOpenIdUser username => a.createOpenIdUser username

end Authority

namespace Monitor

open Authority (Call)

inductive Subject
  | user (username : String)
  | role (rolename : String)
  deriving DecidableEq

inductive Fact
  | stored (x : Subject)
  | openIdentity (username : String)
  | member (username rolename : String)
  /-- A privilege, or the option to grant it to others, on exactly a target. -/
  | granted (x : Subject) (p : Privilege) (target : Target) (option : Bool)
  deriving DecidableEq

namespace Fact

def subject : Fact → Subject
  | stored x => x
  | openIdentity username => .user username
  | member username _ => .user username
  | granted x .. => x

def joins (rolename : String) : Fact → Bool
  | member _ r => r = rolename
  | _ => false

end Fact

abbrev Facts := Finset Fact

namespace Facts

def founded (config : Config) : Facts := {.stored (.user config.adminName)}

def grant (facts : Facts) (x : Subject) (p : Privilege) (target : Target) (option : Bool) :
    Facts :=
  insert (.granted x p target false)
    (if option then insert (.granted x p target true) facts else facts)

def revokeOption (facts : Facts) (x : Subject) (p : Privilege) (target : Target) : Facts :=
  facts.erase (.granted x p target true)

def revoke (facts : Facts) (x : Subject) (p : Privilege) (target : Target) : Facts :=
  (facts.revokeOption x p target).erase (.granted x p target false)

def operate (facts : Facts) : Operation → Facts
  | .createUser username _ => insert (.stored (.user username)) facts
  | .dropUser username => facts.filter (·.subject ≠ .user username)
  | .updatePassword _ _ => facts
  | .createRole rolename => insert (.stored (.role rolename)) facts
  | .dropRole rolename =>
    facts.filter fun f => f.subject ≠ .role rolename ∧ f.joins rolename = false
  | .grantRoleToUser rolename username => insert (.member username rolename) facts
  | .revokeRoleFromUser rolename username => facts.erase (.member username rolename)
  | .grantUser username p target option => facts.grant (.user username) p target option
  | .revokeUser username p target => facts.revoke (.user username) p target
  | .revokeUserGrantOption username p target => facts.revokeOption (.user username) p target
  | .grantRole rolename p target option => facts.grant (.role rolename) p target option
  | .revokeRole rolename p target => facts.revoke (.role rolename) p target
  | .revokeRoleGrantOption rolename p target => facts.revokeOption (.role rolename) p target

def after (facts : Facts) : Call → Facts
  | .operation o => facts.operate o
  | .createOpenIdUser username =>
    insert (.stored (.user username)) (insert (.openIdentity username) facts)

/-- A live grant to the subject covers the target. -/
def Covered (facts : Facts) (x : Subject) (p : Privilege) (option : Bool) (target : Target) :
    Prop :=
  ∃ t, t.covers target = true ∧ .granted x p t option ∈ facts

/-- Whether a user passes a check, as far as the facts go. -/
def Permits (facts : Facts) (adminName username : String) (p : Privilege) (option : Bool)
    (target : Target) : Prop :=
  username = adminName ∨ .openIdentity username ∈ facts ∨
    facts.Covered (.user username) p option target ∨
    ∃ rolename, .stored (.role rolename) ∈ facts ∧ .member username rolename ∈ facts ∧
      facts.Covered (.role rolename) p option target

end Facts

/-- One call to an authority, with the monitor looking on: only a success changes the facts. -/
def watch {σ : Type} (a : Authority σ) (x : σ × Facts) (call : Call) : σ × Facts :=
  match (a.perform call).run x.1 with
  | (.ok true, s) => (s, x.2.after call)
  | (_, s) => (s, x.2)

def history {σ : Type} (a : Authority σ) (x : σ × Facts) (calls : List Call) : σ × Facts :=
  calls.foldl (watch a) x

def userShows (u : User) : Fact → Bool
  | .stored _ => true
  | .openIdentity _ => u.openId
  | .member _ rolename => u.hasRole rolename
  | .granted _ p target option => (u.grants.heldOn target).allows p option

def roleShows (r : Role) : Fact → Bool
  | .stored _ => true
  | .granted _ p target option => (r.grants.heldOn target).allows p option
  | _ => false

def shows (s : Registry) (f : Fact) : Bool :=
  match f.subject with
  | .user username => (s.users.get? username).any (userShows · f)
  | .role rolename => (s.roles.get? rolename).any (roleShows · f)

structure Mirrors (s : Registry) (facts : Facts) : Prop where
  named : s.Named
  sound : s.Sound
  mem_iff : ∀ f, f ∈ facts ↔ shows s f = true

variable {s s' : Registry} {facts : Facts} {f : Fact} {config : Config} {x : Subject} {y : Holder}

theorem shows_user {username : String} (hf : f.subject = .user username) :
    shows s f = (s.users.get? username).any (userShows · f) := by
  rw [shows, hf]

theorem shows_role {rolename : String} (hf : f.subject = .role rolename) :
    shows s f = (s.roles.get? rolename).any (roleShows · f) := by
  rw [shows, hf]

def subjectOf : Holder → Subject
  | .user u => .user u.name
  | .role r => .role r.name

def holder? (s : Registry) : Subject → Option Holder
  | .user username => (s.users.get? username).map .user
  | .role rolename => (s.roles.get? rolename).map .role

def holderShows : Holder → Fact → Bool
  | .user u => userShows u
  | .role r => roleShows r

def put (s : Registry) : Holder → Registry
  | .user u => s.putUser u
  | .role r => s.putRole r

def keep (s : Registry) (change : Holder × Bool) : Registry :=
  if change.2 then put s change.1 else s

theorem shows_eq (s : Registry) (f : Fact) :
    shows s f = (holder? s f.subject).any (holderShows · f) := by
  cases hf : f.subject with
  | user username =>
    rw [shows_user hf, holder?]
    cases s.users.get? username <;> rfl
  | role rolename =>
    rw [shows_role hf, holder?]
    cases s.roles.get? rolename <;> rfl

theorem holder?_user {username : String} {u : User} (hu : s.users.get? username = some u) :
    holder? s (.user username) = some (.user u) := by
  rw [holder?, hu]
  rfl

theorem holder?_role {rolename : String} {r : Role} (hr : s.roles.get? rolename = some r) :
    holder? s (.role rolename) = some (.role r) := by
  rw [holder?, hr]
  rfl

theorem holder?_noUser {username : String} (hu : s.users.get? username = none) :
    holder? s (.user username) = none := by
  rw [holder?, hu]
  rfl

theorem holder?_noRole {rolename : String} (hr : s.roles.get? rolename = none) :
    holder? s (.role rolename) = none := by
  rw [holder?, hr]
  rfl

theorem holder?_put (s : Registry) (y : Holder) (x : Subject) :
    holder? (put s y) x = if x = subjectOf y then some y else holder? s x := by
  cases y with
  | user u =>
    cases x with
    | user username =>
      rw [holder?, put, Registry.getUser_putUser]
      by_cases hname : username = u.name <;> simp [hname, subjectOf, holder?]
    | role rolename => rfl
  | role r =>
    cases x with
    | user username => rfl
    | role rolename =>
      rw [holder?, put, Registry.getRole_putRole]
      by_cases hname : rolename = r.name <;> simp [hname, subjectOf, holder?]

theorem holder?_dropUser (s : Registry) (username : String) (x : Subject) :
    holder? (s.dropUser username) x = if x = .user username then none else holder? s x := by
  cases x with
  | user name =>
    rw [holder?, Registry.getUser_dropUser]
    by_cases hname : name = username <;> simp [hname, holder?]
  | role rolename => rfl

theorem shows_put (s : Registry) (y : Holder) (f : Fact) :
    shows (put s y) f = if f.subject = subjectOf y then holderShows y f else shows s f := by
  rw [shows_eq, shows_eq, holder?_put]
  split <;> rfl

/-- A change that is not worth keeping would show nothing new. -/
theorem shows_keep {change : Holder × Bool} (hy : holder? s (subjectOf change.1) = some y)
    (hsame : change.2 = false → ∀ f, holderShows change.1 f = holderShows y f) (f : Fact) :
    shows (keep s change) f =
      if f.subject = subjectOf change.1 then holderShows change.1 f else shows s f := by
  rw [keep]
  split
  · exact shows_put s change.1 f
  -- What is not kept shows what was stored already.
  · rename_i hchanged
    split
    · rename_i hf
      rw [shows_eq, hf, hy, hsame (Bool.eq_false_iff.2 hchanged)]
      rfl
    · rfl

theorem named_put (hs : s.Named) (y : Holder) : (put s y).Named := by
  cases y with
  | user u => exact hs.putUser u
  | role r => exact hs.putRole r

theorem sound_put (hs : s.Sound) (hy : y.grants.Sound) : (put s y).Sound := by
  cases y with
  | user u => exact hs.putUser hy
  | role r => exact hs.putRole hy

theorem Mirrors.mem_iff_holder (h : Mirrors s facts) (hy : holder? s x = some y)
    (hf : f.subject = x) : f ∈ facts ↔ holderShows y f = true := by
  rw [h.mem_iff, shows_eq, hf, hy]
  rfl

/-- Nothing holds of a subject that is not there. -/
theorem Mirrors.notMem (h : Mirrors s facts) (hx : holder? s x = none) (hf : f.subject = x) :
    f ∉ facts := by
  rw [h.mem_iff, shows_eq, hf, hx]
  exact Bool.false_ne_true

theorem Mirrors.subjectOf_eq (h : Mirrors s facts) (hy : holder? s x = some y) :
    subjectOf y = x := by
  cases x with
  | user username =>
    obtain ⟨u, hu, rfl⟩ := Option.map_eq_some_iff.1 hy
    rw [subjectOf, h.named.user hu]
  | role rolename =>
    obtain ⟨r, hr, rfl⟩ := Option.map_eq_some_iff.1 hy
    rw [subjectOf, h.named.role hr]

theorem Mirrors.sound_holder (h : Mirrors s facts) (hy : holder? s x = some y) :
    y.grants.Sound := by
  cases x with
  | user username =>
    obtain ⟨u, hu, rfl⟩ := Option.map_eq_some_iff.1 hy
    exact h.sound.user hu
  | role rolename =>
    obtain ⟨r, hr, rfl⟩ := Option.map_eq_some_iff.1 hy
    exact h.sound.role hr

namespace Facts

variable {x y : Subject} {p q : Privilege} {t t' : Target} {option o : Bool}

def Match (facts : Facts) (x : Subject) (g : Grants) : Prop :=
  ∀ p t option, .granted x p t option ∈ facts ↔ (g.heldOn t).allows p option = true

theorem mem_grant_iff : .granted y q t' o ∈ facts.grant x p t option ↔
    (y = x ∧ q = p ∧ t' = t ∧ (o = true → option = true)) ∨ .granted y q t' o ∈ facts := by
  cases option <;> cases o <;> simp [grant]

theorem mem_revokeOption_iff : .granted y q t' o ∈ facts.revokeOption x p t ↔
    ¬ (y = x ∧ q = p ∧ t' = t ∧ o = true) ∧ .granted y q t' o ∈ facts := by
  rw [revokeOption, Finset.mem_erase, Ne, Fact.granted.injEq]

theorem mem_revoke_iff : .granted y q t' o ∈ facts.revoke x p t ↔
    ¬ (y = x ∧ q = p ∧ t' = t) ∧ .granted y q t' o ∈ facts := by
  rw [revoke, Finset.mem_erase, mem_revokeOption_iff]
  cases o <;> simp +contextual

theorem mem_grant_of_ne (hf : ∀ o, f ≠ .granted x p t o) :
    f ∈ facts.grant x p t option ↔ f ∈ facts := by
  cases option <;> simp [grant, hf]

theorem mem_revokeOption_of_ne (hf : ∀ o, f ≠ .granted x p t o) :
    f ∈ facts.revokeOption x p t ↔ f ∈ facts := by
  simp [revokeOption, hf]

theorem mem_revoke_of_ne (hf : ∀ o, f ≠ .granted x p t o) :
    f ∈ facts.revoke x p t ↔ f ∈ facts := by
  simp [revoke, revokeOption, hf]

variable {g : Grants} {change : Grants × Bool}

theorem Match.grant (h : facts.Match x g) (ha : g.Alters t (·.grant p option) change) :
    (facts.grant x p t option).Match x change.1 := by
  intro q t' o
  rw [mem_grant_iff, h q t' o, ha.allows_grant, eq_self_iff_true, true_and]

theorem Match.revoke (h : facts.Match x g) (ha : g.Alters t (·.revoke p) change) :
    (facts.revoke x p t).Match x change.1 := by
  intro q t' o
  rw [mem_revoke_iff, h q t' o, ha.allows_revoke, eq_self_iff_true, true_and]

theorem Match.revokeOption (h : facts.Match x g) (ha : g.Alters t (·.revokeOption p) change) :
    (facts.revokeOption x p t).Match x change.1 := by
  intro q t' o
  rw [mem_revokeOption_iff, h q t' o, ha.allows_revokeOption, eq_self_iff_true, true_and]

end Facts

theorem Mirrors.match_holder (h : Mirrors s facts) (hy : holder? s x = some y) :
    facts.Match x y.grants := by
  intro p t option
  rw [h.mem_iff_holder hy rfl]
  cases y <;> rfl

section Steps

variable {facts' : Facts}

theorem Mirrors.add (h : Mirrors s facts) (hnew : holder? s (subjectOf y) = none)
    (hsound : y.grants.Sound)
    (hmem : ∀ f, f ∈ facts' ↔ f.subject = subjectOf y ∧ holderShows y f = true ∨ f ∈ facts) :
    Mirrors (put s y) facts' where
  named := named_put h.named y
  sound := sound_put h.sound hsound
  mem_iff f := by
    rw [hmem, shows_put]
    split
    · rename_i hf
      have hno := h.notMem hnew hf
      simp [hf, hno]
    · rename_i hf
      simp [hf, h.mem_iff]

theorem Mirrors.keep {change : Holder × Bool} (h : Mirrors s facts) (hy : holder? s x = some y)
    (hname : subjectOf change.1 = subjectOf y) (hsound : change.1.grants.Sound)
    (hsame : change.2 = false → ∀ f, holderShows change.1 f = holderShows y f)
    (hother : ∀ f, f.subject ≠ x → (f ∈ facts' ↔ f ∈ facts))
    (hself : ∀ f, f.subject = x → (f ∈ facts' ↔ holderShows change.1 f = true)) :
    Mirrors (keep s change) facts' where
  named := by
    rw [Monitor.keep]
    split
    · exact named_put h.named change.1
    · exact h.named
  sound := by
    rw [Monitor.keep]
    split
    · exact sound_put h.sound hsound
    · exact h.sound
  mem_iff f := by
    rw [h.subjectOf_eq hy] at hname
    rw [shows_keep (by rw [hname, hy]) hsame, hname]
    split
    · rename_i hf
      exact hself f hf
    · rename_i hf
      rw [hother f hf, h.mem_iff]

/-- A change of the grants on one target, for one privilege. -/
theorem Mirrors.regrant (h : Mirrors s facts) (hy : holder? s x = some y) {p : Privilege}
    {t : Target} {g' : Grants} {changed : Bool} (hsound : g'.Sound)
    (hsame : changed = false → ∀ t, g'.heldOn t = y.grants.heldOn t)
    (hrest : ∀ f, (∀ o, f ≠ .granted x p t o) → (f ∈ facts' ↔ f ∈ facts))
    (hmatch : facts'.Match x g') :
    Mirrors (Monitor.keep s (y.withGrants g', changed)) facts' := by
  have hgranted (x : Subject) (q : Privilege) (t : Target) (o : Bool) :
      holderShows (y.withGrants g') (.granted x q t o) =
        (g'.heldOn t).allows q o := by cases y <;> rfl
  refine h.keep hy ?_ ?_ (fun hno f => ?_) (fun f hf => ?_) fun f hf => ?_
  · cases y <;> rfl
  · cases y <;> exact hsound
  · cases f with
    | granted x q t o =>
      rw [hgranted, hsame hno t]
      cases y <;> rfl
    | _ => cases y <;> rfl
  · apply hrest
    rintro o rfl
    exact hf rfl
  · cases f with
    | granted x' q t o =>
      obtain rfl : x' = x := hf
      rw [hgranted]
      exact hmatch q t o
    | _ =>
      rw [hrest _ (by simp), h.mem_iff_holder hy hf]
      cases y <;> rfl

theorem Mirrors.grant (h : Mirrors s facts) (hy : holder? s x = some y) {p : Privilege}
    {t : Target} {option : Bool} {g' : Grants} {changed : Bool}
    (hgrants : (Grants.grant p t option).run y.grants = (.ok changed, g')) :
    Mirrors (Monitor.keep s (y.withGrants g', changed)) (facts.grant x p t option) := by
  have ha := Grants.grant_alters hgrants
  exact h.regrant hy (Grants.sound_of_grant (h.sound_holder hy) hgrants)
    (ha.same Holding.grant_unchanged) (fun f => Facts.mem_grant_of_ne)
    ((h.match_holder hy).grant ha)

theorem Mirrors.revoke (h : Mirrors s facts) (hy : holder? s x = some y) {p : Privilege}
    {t : Target} {g' : Grants} {changed : Bool}
    (hgrants : (Grants.revoke p t).run y.grants = (.ok changed, g')) :
    Mirrors (Monitor.keep s (y.withGrants g', changed)) (facts.revoke x p t) := by
  have hs := h.sound_holder hy
  have ha := Grants.revoke_alters hs hgrants
  exact h.regrant hy (Grants.sound_of_revoke hs hgrants)
    (ha.same (hs.holding _).revoke_unchanged) (fun f => Facts.mem_revoke_of_ne)
    ((h.match_holder hy).revoke ha)

theorem Mirrors.revokeOption (h : Mirrors s facts) (hy : holder? s x = some y) {p : Privilege}
    {t : Target} {g' : Grants} {changed : Bool}
    (hgrants : (Grants.revokeOption p t).run y.grants = (.ok changed, g')) :
    Mirrors (Monitor.keep s (y.withGrants g', changed)) (facts.revokeOption x p t) := by
  have ha := Grants.revokeOption_alters hgrants
  exact h.regrant hy (Grants.sound_of_revokeOption (h.sound_holder hy) hgrants)
    (ha.same Holding.revokeOption_unchanged) (fun f => Facts.mem_revokeOption_of_ne)
    ((h.match_holder hy).revokeOption ha)

theorem Mirrors.dropUser (h : Mirrors s facts) (username : String) :
    Mirrors (s.dropUser username) (facts.filter (·.subject ≠ .user username)) where
  named := h.named.dropUser username
  sound := h.sound.dropUser username
  mem_iff f := by
    rw [Finset.mem_filter, h.mem_iff, shows_eq, shows_eq, holder?_dropUser]
    by_cases hf : f.subject = .user username <;> simp [hf]

theorem userShows_removeRole (u : User) (rolename : String) (f : Fact) :
    userShows (u.removeRole rolename).1 f = (userShows u f && !f.joins rolename) := by
  cases f with
  | member username r =>
    simp only [userShows, User.hasRole_removeRole, Fact.joins, Bool.and_comm]
  | _ => simp [userShows, Fact.joins, User.removeRole]

theorem Mirrors.dropRole (h : Mirrors s facts) (rolename : String) :
    Mirrors (s.dropRole rolename)
      (facts.filter fun f => f.subject ≠ .role rolename ∧ f.joins rolename = false) where
  named := h.named.dropRole rolename
  sound := h.sound.dropRole h.named rolename
  mem_iff f := by
    rw [Finset.mem_filter, h.mem_iff]
    cases hf : f.subject with
    | user username =>
      rw [shows_user hf, shows_user hf, Registry.getUser_dropRole h.named]
      cases s.users.get? username with
      | none => simp
      | some u => simp [userShows_removeRole]
    | role name =>
      -- Memberships are facts about users.
      have hjoins : f.joins rolename = false := by cases f <;> first | rfl | cases hf
      rw [shows_role hf, shows_role hf, Registry.getRole_dropRole]
      by_cases hname : name = rolename
      · simp [hname]
      · simp [hname, hjoins]

theorem userShows_addRole (u : User) (username rolename : String) (f : Fact)
    (hf : f.subject = .user username) : userShows (u.addRole rolename).1 f = true ↔
      f = .member username rolename ∨ userShows u f = true := by
  cases f with
  | member name r =>
    obtain rfl : name = username := by simpa [Fact.subject] using hf
    simp [userShows, User.hasRole_addRole]
  | _ => simp [userShows, User.addRole]

theorem Mirrors.joinRole (h : Mirrors s facts) {username : String} {u : User}
    (hu : s.users.get? username = some u) (rolename : String) :
    Mirrors (s.keepUser (u.addRole rolename)) (insert (.member username rolename) facts) := by
  have hsound := h.sound.user hu
  change Mirrors (Monitor.keep s (.user (u.addRole rolename).1, (u.addRole rolename).2)) _
  refine h.keep (holder?_user hu) rfl hsound (fun hno f => ?_) (fun f hf => ?_) fun f hf => ?_
  · have hhas : u.hasRole rolename = true := by simpa [User.addRole] using hno
    cases f with
    | member name r =>
      simp only [holderShows, userShows, User.hasRole_addRole]
      by_cases hr : r = rolename <;> simp [hr, hhas]
    | _ => rfl
  · rw [Finset.mem_insert, or_iff_right]
    rintro rfl
    exact hf rfl
  · rw [Finset.mem_insert, holderShows, userShows_addRole u username rolename f hf,
      h.mem_iff_holder (holder?_user hu) hf, holderShows]

theorem Mirrors.leaveRole (h : Mirrors s facts) {username : String} {u : User}
    (hu : s.users.get? username = some u) (rolename : String) :
    Mirrors (s.keepUser (u.removeRole rolename)) (facts.erase (.member username rolename)) := by
  have hsound := h.sound.user hu
  change Mirrors (Monitor.keep s (.user (u.removeRole rolename).1, (u.removeRole rolename).2)) _
  refine h.keep (holder?_user hu) rfl hsound (fun hno f => ?_) (fun f hf => ?_) fun f hf => ?_
  · rw [User.removeRole_eq_self hno]
  · rw [Finset.mem_erase, and_iff_right]
    rintro rfl
    exact hf rfl
  · rw [Finset.mem_erase, h.mem_iff_holder (holder?_user hu) hf, holderShows, holderShows,
      userShows_removeRole]
    cases f with
    | member name r =>
      obtain rfl : name = username := by simpa [Fact.subject] using hf
      simp [Fact.joins, and_comm]
    | _ => simp [Fact.joins]

/-- Of a new user there is nothing to show but that it is there. -/
theorem userShows_new (username hash : String) (f : Fact) :
    f.subject = .user (User.new username hash).name ∧ userShows (.new username hash) f = true ↔
      f = .stored (.user (User.new username hash).name) := by
  cases f <;> simp [userShows, User.new, User.hasRole, KeyMap.contains, Fact.subject]

theorem userShows_openIdentity (username : String) (f : Fact) :
    f.subject = .user (User.openIdentity username).name ∧
        userShows (.openIdentity username) f = true ↔
      f = .stored (.user (User.openIdentity username).name) ∨
        f = .openIdentity (User.openIdentity username).name := by
  cases f <;> simp [userShows, User.openIdentity, User.hasRole, KeyMap.contains, Fact.subject]

theorem roleShows_new (rolename : String) (f : Fact) :
    f.subject = .role (Role.new rolename).name ∧ roleShows (.new rolename) f = true ↔
      f = .stored (.role (Role.new rolename).name) := by
  cases f <;> simp [roleShows, Role.new, Fact.subject]

/-- The facts keep up with every effect. -/
theorem Mirrors.effect (h : Mirrors s facts) {o : Operation} (he : Authority.Effect config s o s') :
    Mirrors s' (facts.operate o) := by
  cases he with
  | @createUser username password _ _ hnew =>
    refine h.add (y := .user (.new username _)) (holder?_noUser hnew) Grants.sound_empty fun f => ?_
    rw [subjectOf, holderShows, userShows_new, Facts.operate, Finset.mem_insert]
    rfl
  | dropUser => exact h.dropUser _
  | @updatePassword username password u _ hu =>
    have hsound := h.sound.user hu
    -- No fact is about a password.
    change Mirrors (Monitor.keep s (.user { u with passwordHash := _ }, true)) facts
    refine h.keep (holder?_user hu) rfl hsound nofun (fun _ _ => Iff.rfl) fun f hf => ?_
    rw [h.mem_iff_holder (holder?_user hu) hf]
    cases f <;> rfl
  | @createRole rolename _ hnew =>
    refine h.add (y := .role (.new rolename)) (holder?_noRole hnew) Grants.sound_empty fun f => ?_
    rw [subjectOf, holderShows, roleShows_new, Facts.operate, Finset.mem_insert]
    rfl
  | dropRole => exact h.dropRole _
  | grantRoleToUser _ hu => exact h.joinRole hu _
  | revokeRoleFromUser hu => exact h.leaveRole hu _
  | grantUser hu hgrants => exact h.grant (holder?_user hu) hgrants
  | revokeUser hu hgrants => exact h.revoke (holder?_user hu) hgrants
  | revokeUserGrantOption hu hgrants => exact h.revokeOption (holder?_user hu) hgrants
  | grantRole hr hgrants => exact h.grant (holder?_role hr) hgrants
  | revokeRole hr hgrants => exact h.revoke (holder?_role hr) hgrants
  | revokeRoleGrantOption hr hgrants => exact h.revokeOption (holder?_role hr) hgrants

end Steps

theorem Mirrors.addOpenIdentity (h : Mirrors s facts) {username : String}
    (hnew : s.users.get? username = none) :
    Mirrors (s.putUser (.openIdentity username))
      (insert (.stored (.user username)) (insert (.openIdentity username) facts)) := by
  refine h.add (y := .user (.openIdentity username)) (holder?_noUser hnew) Grants.sound_empty
    fun f => ?_
  rw [subjectOf, holderShows, userShows_openIdentity, Finset.mem_insert, Finset.mem_insert,
    or_assoc]
  rfl

/-- The facts keep up with every call, whether it succeeds or not. -/
theorem Mirrors.watch {x : Registry × Facts} (h : Mirrors x.1 x.2) (call : Call) :
    Mirrors (watch (Authority.inMemory config) x call).1
      (watch (Authority.inMemory config) x call).2 := by
  cases call with
  | operation o =>
    rw [Monitor.watch, Authority.perform, Action.run_bind]
    rcases Authority.run_apply config o x.1 with ⟨fault, hrun⟩ | ⟨s', hrun, heffect⟩
    · rw [hrun]
      exact h
    · rw [hrun]
      exact h.effect heffect
  | createOpenIdUser username =>
    rw [Monitor.watch, Authority.perform, Authority.run_createOpenIdUser]
    cases (Authority.inMemory config).nameFlaw? username with
    | some reason => exact h
    | none =>
      cases hu : x.1.users.get? username with
      | some u =>
        simp only [KeyMap.contains_of_get? hu]
        exact h
      | none =>
        simp only [KeyMap.contains_of_none hu]
        exact h.addOpenIdentity hu

theorem mirrors_empty : Mirrors .empty ∅ where
  named := Registry.named_empty
  sound := Registry.sound_empty
  mem_iff f := by cases hf : f.subject <;> simp [shows, hf, Registry.empty]

theorem mirrors_founded (config : Config) : Mirrors (.founded config) (Facts.founded config) := by
  refine mirrors_empty.add (y := .user (.new config.adminName _)) rfl Grants.sound_empty fun f => ?_
  rw [subjectOf, holderShows, userShows_new, Facts.founded, Finset.mem_singleton]
  simp [User.new]

theorem mirrors_history (config : Config) (calls : List Call) :
    Mirrors (history (Authority.inMemory config) (.founded config, .founded config) calls).1
      (history (Authority.inMemory config) (.founded config, .founded config) calls).2 := by
  -- The induction is over the calls, from any state that is mirrored.
  have hfrom (x : Registry × Facts) (hx : Mirrors x.1 x.2) :
      Mirrors (history (Authority.inMemory config) x calls).1
        (history (Authority.inMemory config) x calls).2 := by
    induction calls generalizing x with
    | nil => exact hx
    | cons call calls ih => exact ih _ (hx.watch call)
  exact hfrom _ (mirrors_founded config)

theorem Mirrors.covered_iff (h : Mirrors s facts) (hy : holder? s x = some y) {p : Privilege}
    {option : Bool} {target : Target} :
    facts.Covered x p option target ↔ y.grants.allows p target option = true := by
  rw [Grants.allows_iff (h.sound_holder hy)]
  exact exists_congr fun t => and_congr_right fun _ => h.match_holder hy p t option

theorem Mirrors.any_role_iff (h : Mirrors s facts) {username : String} {u : User}
    (hu : s.users.get? username = some u) {p : Privilege} {option : Bool} {target : Target} :
    (s.rolesNamed u.roles.keys).any (·.allows p target option) = true ↔
      ∃ rolename, .stored (.role rolename) ∈ facts ∧ .member username rolename ∈ facts ∧
        facts.Covered (.role rolename) p option target := by
  rw [List.any_eq_true]
  constructor
  · rintro ⟨r, hmem, hallows⟩
    obtain ⟨rolename, hrole, hr⟩ := Registry.mem_rolesNamed.1 hmem
    exact ⟨rolename, (h.mem_iff_holder (holder?_role hr) rfl).2 rfl,
      (h.mem_iff_holder (holder?_user hu) rfl).2 hrole, (h.covered_iff (holder?_role hr)).2 hallows⟩
  · rintro ⟨rolename, hstored, hmember, hcovered⟩
    cases hr : s.roles.get? rolename with
    | none => exact absurd hstored (h.notMem (holder?_noRole hr) rfl)
    | some r =>
      have hrole : u.hasRole rolename = true := (h.mem_iff_holder (holder?_user hu) rfl).1 hmember
      exact ⟨r, Registry.mem_rolesNamed.2 ⟨rolename, hrole, hr⟩,
        (h.covered_iff (holder?_role hr)).1 hcovered⟩

/-- A stored user passes exactly the checks that the facts permit. -/
theorem Mirrors.permits_iff (h : Mirrors s facts) {username : String} {u : User}
    (hu : s.users.get? username = some u) {p : Privilege} {option : Bool} {target : Target} :
    (decide (config.adminName = username) || s.allows u p target option) = true ↔
      facts.Permits config.adminName username p option target := by
  rw [Bool.or_eq_true, decide_eq_true_iff, Registry.allows, Bool.or_eq_true, User.allows,
    Bool.or_eq_true, or_assoc, h.any_role_iff hu, Facts.Permits, eq_comm (a := username),
    h.covered_iff (holder?_user hu),
    h.mem_iff_holder (f := .openIdentity username) (holder?_user hu) rfl]
  rfl

/-- The answers to a check that agree with the facts. -/
structure Facts.Decides (facts : Facts) (adminName : String) (r : PrivilegeRequest)
    (info : PermissionInfo) : Prop where
  unknown : .stored (.user r.username) ∉ facts →
    info = .bare (Authority.unknownUser r.username)
  decided : .stored (.user r.username) ∈ facts →
    info.status = .success ∨ info.status = .bare .noPermission
  granted : .stored (.user r.username) ∈ facts → (info.status = .success ↔
    ∀ t ∈ r.targets, facts.Permits adminName r.username r.privilege r.grantOption t)
  /-- Positions are reported for lists of paths alone. -/
  failed : .stored (.user r.username) ∈ facts → ∀ i, i ∈ info.failedPositions ↔ r.scope = .path ∧
    ∃ t, r.targets[i]? = some t ∧
      ¬ facts.Permits adminName r.username r.privilege r.grantOption t
  ascending : info.failedPositions.Pairwise (· < ·)

theorem Mirrors.decides (h : Mirrors s facts) {r : PrivilegeRequest}
    (hflaw : Authority.requestFlaw? r = none) :
    ∃ info, ((Authority.inMemory config).checkPrivilege r).run s = (.ok info, s) ∧
      facts.Decides config.adminName r info := by
  cases hu : s.users.get? r.username with
  | none =>
    have hno : .stored (.user r.username) ∉ facts := h.notMem (holder?_noUser hu) rfl
    exact ⟨_, Authority.run_checkPrivilege_unknown hflaw hu, {
      unknown := fun _ => rfl
      decided := fun hstored => absurd hstored hno
      granted := fun hstored => absurd hstored hno
      failed := fun hstored => absurd hstored hno
      ascending := List.Pairwise.nil }⟩
  | some u =>
    have hstored : .stored (.user r.username) ∈ facts :=
      (h.mem_iff_holder (holder?_user hu) rfl).2 rfl
    refine ⟨_, Authority.run_checkPrivilege_stored hflaw hu, ?_⟩
    exact {
      unknown := fun hno => absurd hstored hno
      decided := fun _ => by
        dsimp only
        split
        · exact .inl rfl
        · exact .inr rfl
      granted := fun _ => by
        simp only [← h.permits_iff hu, ← Authority.isEmpty_failures]
        split
        · rename_i hempty
          simp [hempty]
        · rename_i hfailed
          simp [hfailed, Status.success, Status.bare]
      failed := fun _ i => by
        simp only [← h.permits_iff hu]
        split
        · rename_i hpath
          rw [Authority.mem_failures, and_iff_right hpath]
          simp only [Bool.not_eq_true]
        · rename_i hpath
          simp [hpath]
      ascending := by
        dsimp only
        split
        · exact Authority.failures_ascending _ _
        · exact List.Pairwise.nil }

/-- After any history, an authority in memory answers a check as the facts of the history do. -/
theorem checkPrivilege_decided_by_facts {a : Authority Registry}
    (hopen : (Authority.openMemory config).run .empty = (.ok a, s)) (calls : List Call)
    (r : PrivilegeRequest) (hscope : r.privilege.scope = r.scope)
    (hdatabase : r.scope = .object → r.database.isSome = true) :
    let x := history a (s, .founded config) calls
    (.stored (.user r.username) ∈ x.2 ↔ (x.1.users.get? r.username).isSome = true) ∧
      ∃ info, (a.checkPrivilege r).run x.1 = (.ok info, x.1) ∧
        x.2.Decides config.adminName r info := by
  obtain ⟨rfl, rfl⟩ := Authority.of_openMemory hopen
  intro x
  have hmirrors := mirrors_history config calls
  refine ⟨?_, hmirrors.decides (Authority.requestFlaw?_eq_none hscope hdatabase)⟩
  rw [hmirrors.mem_iff, shows_user rfl]
  cases x.1.users.get? r.username <;> simp [userShows]

/-- A role gets a grant after a user joined it, and the user passes. -/
theorem checkPrivilege_of_role_member :
    let calls : List Call := [.operation (.createRole "reader"),
      .operation (.createUser "alice" "secret"), .operation (.grantRoleToUser "reader" "alice"),
      .operation (.grantRole "reader" .readData (.path .everything) false)]
    let x := history (Authority.inMemory .standard) (.founded .standard, .founded .standard) calls
    ∃ info, ((Authority.inMemory .standard).checkPrivilege
        (.forPaths "alice" .readData [.everything] false)).run x.1 = (.ok info, x.1) ∧
      info.status = .success := by
  intro calls x
  have hopen : (Authority.openMemory .standard).run .empty =
      (.ok (Authority.inMemory .standard), .founded .standard) := rfl
  obtain ⟨-, info, hrun, hdecides⟩ := checkPrivilege_decided_by_facts hopen calls
    (.forPaths "alice" .readData [.everything] false) rfl nofun
  refine ⟨info, hrun, (hdecides.granted (by decide +kernel)).2 fun t ht => ?_⟩
  obtain rfl : t = .path .everything := List.mem_singleton.1 ht
  refine .inr (.inr (.inr ⟨"reader", ?_, ?_, .path .everything, ?_, ?_⟩)) <;> decide +kernel

end Monitor

end Warden
