import Warden.Proofs.Node.Lapse

namespace Warden

def Authority.confirms {σ : Type} (a : Authority σ) (s : σ) (r : MembershipRequest) : Bool :=
  match ((a.checkMembership r).run s).1 with
  | .ok info => info.status.isSuccess
  | .error _ => false

theorem Authority.confirms_eq (config : Config) (s : Registry) (username rolename : String) :
    (inMemory config).confirms s ⟨username, rolename⟩ =
      (s.users.get? username).any fun u => u.openId || u.hasRole rolename := by
  cases hu : s.users.get? username with
  | none =>
    rw [confirms, run_checkMembership_unknown hu]
    rfl
  | some u =>
    rw [confirms, run_checkMembership_stored hu, Option.any_some]
    cases u.openId || u.hasRole rolename <;> rfl

theorem Outlives.name {u v : User} (h : Outlives u v) : u.name = v.name := by rw [h.entry]

namespace Site

open Authority

variable {superUser : String} {config : Config} {s : Site Registry} {username rolename : String}

/-- A member whom the node cannot confirm any more: it lists the user under the role, the registry does
not, and an open identity the user is not. -/
def Misled (s : Site Registry) (username rolename : String) : Prop :=
  s.Lapsed username rolename ∧ ∃ v, s.remote.users.get? username = some v ∧ v.openId = false

/-- A node says that a user has a role where the authority does, and where it is misled. -/
theorem Tracks.hasRole_iff (h : Tracks superUser config Outlives s) :
    (s.checkRole (inMemory config).client username rolename).1 = .hasRole ↔
      (inMemory config).confirms s.remote ⟨username, rolename⟩ = true ∨
        s.fresh.Misled username rolename := by
  have hmember (yes : Bool) :
      (if yes then Membership.hasRole else .notGranted) = .hasRole ↔ yes = true := by
    cases yes <;> simp
  rw [Site.checkRole, confirms_eq]
  cases hu : s.fresh.node.cachedUser? username with
  | none =>
    have hkept : ¬ s.fresh.Misled username rolename := by
      rintro ⟨⟨⟨u, hcached, -⟩, -⟩, -⟩
      rw [hu] at hcached
      cases hcached
    rw [or_iff_left hkept]
    dsimp only
    cases hv : s.remote.users.get? username with
    | none =>
      refine iff_of_false (fun hrole => ?_) Bool.false_ne_true
      cases (ask_role_unknown (s := s.fresh) rolename hv).symm.trans hrole
    | some v =>
      rw [Option.any_some, ← hmember]
      exact Iff.of_eq (congrArg (· = _) (ask_role (s := s.fresh) rolename hv))
  | some u =>
    obtain ⟨v, hv, houtlives⟩ := h.fresh.user hu
    rw [remote_fresh] at hv
    dsimp only
    rw [hmember, hv, Option.any_some, Bool.or_eq_true, Bool.or_eq_true, ← houtlives.openId]
    constructor
    · rintro (hopen | hrole)
      · exact .inl (.inl hopen)
      · cases hopen : u.openId with
        | true => exact .inl (.inl rfl)
        | false =>
          cases hkept : v.hasRole rolename with
          | true => exact .inl (.inr rfl)
          | false =>
            exact .inr ⟨⟨⟨u, hu, hrole⟩, v, hv, hkept⟩, v, hv, houtlives.openId ▸ hopen⟩
    · rintro ((hopen | hkept) | ⟨⟨⟨u', hu', hrole⟩, -⟩, -⟩)
      · exact .inl hopen
      · exact .inr (houtlives.hasRole hkept)
      · obtain rfl : u' = u := Option.some.inj (hu'.symm.trans hu)
        exact .inr hrole

theorem not_confirms_of_misled (h : s.fresh.Misled username rolename) :
    (inMemory config).confirms s.remote ⟨username, rolename⟩ = false := by
  obtain ⟨⟨-, v, hv, hkept⟩, v', hv', hopen⟩ := h
  obtain rfl : v' = v := Option.some.inj (hv'.symm.trans hv)
  rw [remote_fresh] at hv
  rw [confirms_eq, hv, Option.any_some, hopen, hkept]
  rfl

def Listed (s : Site Registry) (username rolename : String) : Prop :=
  (∃ u, s.node.cachedUser? username = some u ∧ u.hasRole rolename = true) ∧
    ∃ v, s.remote.users.get? username = some v ∧ v.hasRole rolename = true

/-- An operation makes a node forget, and nothing else. -/
theorem cachedUser?_operate {ρ : Type} {c : Client ρ} {s : Site ρ} {o : Operation} {u : User}
    (hu : (s.operate c o).2.node.cachedUser? username = some u) :
    s.node.cachedUser? username = some u := by
  change (s.node.takeOperation o ((c.operate o).run s.remote).1).2.cachedUser? username =
    some u at hu
  cases hanswer : ((c.operate o).run s.remote).1 with
  | error fault =>
    rw [hanswer] at hu
    exact hu
  | ok status =>
    rw [hanswer, Node.takeOperation] at hu
    split at hu
    · exact (getUser_invalidate hu).2
    · exact hu

/-- A listed user is stored, under the name that the user carries. -/
theorem Tracks.name_of_cached {R : User → User → Prop} (h : Tracks superUser config R s)
    (hR : ∀ u v, R u v → u.name = v.name) {u : User}
    (hu : s.node.cachedUser? username = some u) : u.name = username := by
  obtain ⟨v, hv, hrelated⟩ := h.user hu
  exact (hR u v hrelated).trans (h.named.user hv)

/-- Only the removal of a role makes a membership lapse. -/
theorem Tracks.lapsed_of_step (h : Tracks superUser config Outlives s) {e : Event}
    (hlapsed : (s.step (inMemory config).client e).Lapsed username rolename) :
    s.Lapsed username rolename ∨
      e = .operate (.dropRole rolename) ∧ s.Listed username rolename := by
  by_cases hbefore : s.Lapsed username rolename
  · exact .inl hbefore
  -- So far the registry has each role that the node lists this one user under.
  let Keeps (u v : User) : Prop :=
    Outlives u v ∧ (u.name = username → u.hasRole rolename = true → v.hasRole rolename = true)
  have hkeeps : Tracks superUser config Keeps s := by
    refine ⟨h.length, h.adminName, h.named, h.unnamed, fun {name u} hu => ?_, h.role⟩
    obtain ⟨v, hv, houtlives⟩ := h.user hu
    refine ⟨v, hv, houtlives, fun hname hrole => ?_⟩
    obtain rfl : name = username :=
      (h.name_of_cached (fun _ _ => Outlives.name) hu).symm.trans hname
    cases hkept : v.hasRole rolename with
    | true => rfl
    | false => exact absurd ⟨⟨u, hu, hrole⟩, v, hv, hkept⟩ hbefore
  obtain ⟨⟨u, hu, hrole⟩, v, hv, hkept⟩ := hlapsed
  right
  by_cases he : e = .operate (.dropRole rolename)
  · subst he
    have hcached : s.node.cachedUser? username = some u := cachedUser?_operate hu
    refine ⟨rfl, ⟨u, hcached, hrole⟩, ?_⟩
    obtain ⟨v', hv', houtlives, hlisted⟩ := hkeeps.user hcached
    exact ⟨v', hv', hlisted (houtlives.name.trans (h.named.user hv')) hrole⟩
  · have hafter : Tracks superUser config Keeps (s.step (inMemory config).client e) := by
      refine hkeeps.step (fun u => ⟨.refl u, fun _ => id⟩) e fun other heq u v hR => ?_
      refine ⟨hR.1.removeRole other, fun hname hrole => ?_⟩
      have hother : rolename ≠ other := by
        rintro rfl
        exact he heq
      rw [User.hasRole_removeRole, hR.2 hname hrole, decide_eq_false hother]
      rfl
    obtain ⟨v', hv', houtlives, hlisted⟩ := hafter.user hu
    obtain rfl : v' = v := Option.some.inj (hv'.symm.trans hv)
    rw [hlisted (houtlives.name.trans (hafter.named.user hv')) hrole] at hkept
    cases hkept

theorem run_concat {ρ : Type} (c : Client ρ) (s : Site ρ) (events : List Event) (e : Event) :
    s.run c (events ++ [e]) = (s.run c events).step c e := List.foldl_concat ..

/-- A membership that has lapsed did so when the role was removed, and not since then has the node
forgotten the user or the registry the removal. -/
theorem Tracks.lapsed_since (h : Tracks superUser config Outlives s)
    (hstart : ¬ s.Lapsed username rolename) (events : List Event)
    (hlapsed : (s.run (inMemory config).client events).Lapsed username rolename) :
    ∃ before after, events = before ++ .operate (.dropRole rolename) :: after ∧
      (s.run (inMemory config).client before).Listed username rolename ∧
      ∀ past, past <+: after → (s.run (inMemory config).client
        (before ++ .operate (.dropRole rolename) :: past)).Lapsed username rolename := by
  induction events using List.reverseRecOn with
  | nil => exact absurd hlapsed hstart
  | append_singleton events e ih =>
    have hrun : Tracks superUser config Outlives (s.run (inMemory config).client events) :=
      h.run Outlives.refl events fun _ _ _ _ h => h.removeRole _
    have hstep := hlapsed
    rw [run_concat] at hstep
    rcases hrun.lapsed_of_step hstep with hbefore | ⟨rfl, hlisted⟩
    · obtain ⟨before, after, rfl, hlisted, hpast⟩ := ih hbefore
      refine ⟨before, after ++ [e], by simp, hlisted, fun past hprefix => ?_⟩
      rcases List.prefix_concat_iff.1 hprefix with rfl | hprefix
      · simpa using hlapsed
      · exact hpast past hprefix
    · refine ⟨events, [], rfl, hlisted, fun past hprefix => ?_⟩
      rw [List.prefix_nil.1 hprefix]
      exact hlapsed

theorem lapsed_of_fresh (h : s.fresh.Lapsed username rolename) : s.Lapsed username rolename := by
  obtain ⟨⟨u, hu, hrole⟩, hstored⟩ := h
  refine ⟨⟨u, ?_, hrole⟩, hstored⟩
  change s.node.fresh.cachedUser? username = some u at hu
  rw [Node.fresh, Node.refresh] at hu
  split at hu
  · cases hu
  · exact hu

/-- At any point of any run, a node that confirms a membership has the authority's consent, unless it
is misled. The role was then removed while the node listed the user under it, and the membership has
lapsed ever since. -/
theorem run_confirms_iff {settings : Config} {a : Authority Registry} {registry : Registry}
    (hopen : (openMemory config).run .empty = (.ok a, registry)) (events : List Event)
    (username rolename : String) :
    let s := (cold settings registry).run a.client events
    (((s.checkRole a.client username rolename).1 = .hasRole →
      a.confirms s.remote ⟨username, rolename⟩ = true) ↔ ¬ s.fresh.Misled username rolename) ∧
    (s.fresh.Misled username rolename →
      ∃ before after, events = before ++ .operate (.dropRole rolename) :: after ∧
        ((cold settings registry).run a.client before).Listed username rolename ∧
        ∀ past, past <+: after → ((cold settings registry).run a.client
          (before ++ .operate (.dropRole rolename) :: past)).Lapsed username rolename) := by
  obtain ⟨rfl, hcold⟩ := tracks_opened (R := Outlives) settings hopen
  intro s
  have hs : Tracks settings.adminName config Outlives s :=
    hcold.run Outlives.refl events fun _ _ _ _ h => h.removeRole _
  constructor
  · rw [hs.hasRole_iff]
    constructor
    · intro hconsent hmisled
      have hyes := hconsent (.inr hmisled)
      rw [not_confirms_of_misled hmisled] at hyes
      cases hyes
    · rintro hnot (hyes | hmisled)
      · exact hyes
      · exact absurd hmisled hnot
  · intro hmisled
    have hstart : ¬ (cold settings registry).Lapsed username rolename := by
      rintro ⟨⟨u, hu, -⟩, -⟩
      cases hu
    exact hcold.lapsed_since hstart events (lapsed_of_fresh hmisled.1)

/-- A node that saw a member goes on to confirm the membership when the role is no more. -/
theorem confirms_false_of_dropRole :
    let s := (cold .standard (.founded .standard)).run (inMemory .standard).client
      [.operate (.createUser "user1" "password"), .operate (.createRole "role1"),
       .operate (.grantRoleToUser "role1" "user1"), .ask (.role "user1" "role1"),
       .operate (.dropRole "role1")]
    (s.checkRole (inMemory .standard).client "user1" "role1").1 = .hasRole ∧
      (inMemory .standard).confirms s.remote ⟨"user1", "role1"⟩ = false := by
  decide +kernel

/-- The role was made anew since, and given to another user. -/
theorem misled_role1 :
    let start := cold .standard (.founded .standard)
    let c := (inMemory .standard).client
    (start.run c (lapse [])).fresh.Misled "user1" "role1" ∧
      ∃ before after, lapse [] = before ++ .operate (.dropRole "role1") :: after ∧
        (start.run c before).Listed "user1" "role1" ∧ ∀ past, past <+: after →
          (start.run c (before ++ .operate (.dropRole "role1") :: past)).Lapsed "user1" "role1" := by
  intro start c
  have hopen : (openMemory .standard).run .empty =
      (.ok (inMemory .standard), .founded .standard) := rfl
  have hstale : ((start.run c (lapse [])).checkRole c "user1" "role1").1 = .hasRole ∧
      (inMemory .standard).confirms (start.run c (lapse [])).remote ⟨"user1", "role1"⟩ = false := by
    decide +kernel
  obtain ⟨hconsent, hsince⟩ :=
    @run_confirms_iff .standard .standard _ _ hopen (lapse []) "user1" "role1"
  have hmisled : (start.run c (lapse [])).fresh.Misled "user1" "role1" := by
    by_contra hnot
    have hyes := hconsent.2 hnot hstale.1
    rw [hstale.2] at hyes
    cases hyes
  exact ⟨hmisled, hsince hmisled⟩

end Site

end Warden
