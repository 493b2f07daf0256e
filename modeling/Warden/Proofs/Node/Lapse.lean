import Warden.Proofs.Node.Refusal

namespace Warden.Site

open Authority PrivilegeRequest

variable {config : Config} {s : Site Registry} {username : String} {p : Privilege}
  {target : Target} {option : Bool}

/-- The node lists a user under a role that the registry has taken away. -/
def Lapsed (s : Site Registry) (username rolename : String) : Prop :=
  (∃ u, s.node.cachedUser? username = some u ∧ u.hasRole rolename = true) ∧
    ∃ v, s.remote.users.get? username = some v ∧ v.hasRole rolename = false

def PassesByLapse (s : Site Registry) (username : String) (p : Privilege) (target : Target)
    (option : Bool) : Prop :=
  ∃ rolename r, s.Lapsed username rolename ∧ s.node.cache.roles.get? rolename = some r ∧
    r.allows p target option = true

/-- A yes from the cache is the authority's yes, or due to a lapse. -/
theorem Follows.of_consent (h : Follows config Outlives s)
    (hscope : p.check target.scope = .ok ()) (hadmin : config.adminName ≠ username)
    (hverdict : s.node.cachedVerdict username p target option = some true) :
    (inMemory config).grants s.remote (forTarget username p target option) = true ∨
      s.PassesByLapse username p target option := by
  obtain ⟨u, hu, hconsent⟩ := Option.bind_eq_some_iff.1 hverdict
  obtain ⟨v, hv, houtlives⟩ := h.user hu
  rw [grants_forTarget hscope hadmin hv, Registry.allows_iff, ← houtlives.allows]
  rcases Cache.of_verdict_true hconsent with hown | ⟨rolename, hrole, r, hr, hallows⟩
  · exact .inl (.inl hown)
  -- The cached role is as stored, so only the membership can be wrong.
  · cases hkept : v.hasRole rolename with
    | true => exact .inl (.inr ⟨rolename, r, hkept, h.role hr, hallows⟩)
    | false => exact .inr ⟨rolename, r, ⟨⟨u, hu, hrole⟩, v, hv, hkept⟩, hr, hallows⟩

theorem denial_of_lapse (hlapse : s.PassesByLapse username p target option) :
    s.node.cachedVerdict username p target option ≠ some false := by
  intro hverdict
  obtain ⟨rolename, r, ⟨⟨u, hu, hrole⟩, -⟩, hr, hallows⟩ := hlapse
  rw [Node.cachedVerdict, hu, Option.bind_some] at hverdict
  obtain ⟨r', hr', hno⟩ := (Cache.of_verdict_false hverdict).2 rolename hrole
  obtain rfl : r' = r := Option.some.inj (hr'.symm.trans hr)
  rw [hallows] at hno
  cases hno

/-- A cache that decides says yes where the authority does, and where a lapse makes it. -/
theorem Follows.consent_iff (h : Follows config Outlives s)
    (hscope : p.check target.scope = .ok ()) (hadmin : config.adminName ≠ username) :
    s.node.cachedVerdict username p target option = some true ↔
      s.node.cachedVerdict username p target option ≠ none ∧
        ((inMemory config).grants s.remote (forTarget username p target option) = true ∨
          s.PassesByLapse username p target option) := by
  constructor
  · intro hverdict
    refine ⟨?_, h.of_consent hscope hadmin hverdict⟩
    rw [hverdict]
    nofun
  · rintro ⟨hdecided, hyes⟩
    cases hverdict : s.node.cachedVerdict username p target option with
    | none => exact absurd hverdict hdecided
    | some passed =>
      cases passed with
      | true => rfl
      | false =>
        rcases hyes with hgrants | hlapse
        · rw [h.grants_of_denial hscope hadmin hverdict] at hgrants
          cases hgrants
        · exact absurd hverdict (denial_of_lapse hlapse)

def Decided (s : Site Registry) (username : String) (p : Privilege) (target : Target)
    (option : Bool) : Prop := s.fresh.node.cachedVerdict username p target option ≠ none

theorem Follows.stale_check_iff (h : Follows config Outlives s)
    (hadmin : config.adminName ≠ username) :
    (s.check (inMemory config).client username p target option).1.isSuccess = true ∧
        (inMemory config).grants s.remote (forTarget username p target option) = false ↔
      p.check target.scope = .ok () ∧
        (inMemory config).grants s.remote (forTarget username p target option) = false ∧
        s.Decided username p target option ∧
        s.fresh.PassesByLapse username p target option := by
  cases hscope : p.check target.scope with
  | error fault =>
    rw [check_misplaced hscope, Privilege.isSuccess_of_check hscope]
    simp
  | ok =>
    rw [check_eq hscope (h.adminName ▸ hadmin), Status.isSuccess, code_statusOf]
    cases hgrants : (inMemory config).grants s.remote (forTarget username p target option) with
    | true => simp
    | false =>
      have hconsent : s.fresh.node.cachedVerdict username p target option = some true ↔ _ :=
        h.fresh.consent_iff hscope hadmin
      have hyes (verdict : Option Bool) : verdict.getD false = true ↔ verdict = some true := by
        cases verdict <;> simp
      rw [remote_fresh, hgrants] at hconsent
      simpa [Decided, hyes] using hconsent

theorem isSuccess_checkList {paths : List Pattern} (hscope : p.check .path = .ok ())
    (hadmin : s.node.adminName ≠ username) :
    (s.checkList (inMemory config).client username paths p option).1.status.isSuccess =
      ((s.fresh.node.cachedFailures username paths p option).getD
        (refused config s.remote username p option paths)).isEmpty := by
  rw [checkList_eq paths hscope hadmin, Status.isSuccess, code_resultOf]
  cases (List.isEmpty _) <;> rfl

/-- A list passes where the cache says yes to every path. -/
theorem isSuccess_checkList_of_consent {paths : List Pattern} (hscope : p.check .path = .ok ())
    (hadmin : s.node.adminName ≠ username)
    (hconsent : ∀ path ∈ paths,
      s.fresh.node.cachedVerdict username p (.path path) option = some true) :
    (s.checkList (inMemory config).client username paths p option).1.status.isSuccess = true := by
  rw [isSuccess_checkList hscope hadmin, Node.cachedFailures]
  cases hu : s.fresh.node.cachedUser? username with
  | some u =>
    simp only [Node.cachedVerdict, hu, Option.bind_some] at hconsent
    rw [Option.bind_some, Cache.failures_eq_nil hconsent]
    rfl
  | none =>
    cases paths with
    | nil => rfl
    | cons path paths =>
      have hnone := hconsent path List.mem_cons_self
      rw [Node.cachedVerdict, hu] at hnone
      cases hnone

/-- A list that passes without the authority's consent passes by the cache. -/
theorem consent_of_isSuccess_checkList {paths : List Pattern} (hscope : p.check .path = .ok ())
    (hadmin : s.node.adminName ≠ username)
    (hrefused : (inMemory config).grants s.remote (forPaths username p paths option) = false)
    (hsuccess : (s.checkList (inMemory config).client username paths p
      option).1.status.isSuccess = true) :
    ∀ path ∈ paths, s.fresh.node.cachedVerdict username p (.path path) option = some true := by
  rw [isSuccess_checkList hscope hadmin] at hsuccess
  cases hfailed : s.fresh.node.cachedFailures username paths p option with
  | some failed =>
    rw [hfailed, Option.getD_some] at hsuccess
    obtain ⟨u, hu, hfailures⟩ := Option.bind_eq_some_iff.1 hfailed
    obtain ⟨-, rfl⟩ := Cache.of_failures hfailures
    intro path hpath
    rw [Node.cachedVerdict, hu, Option.bind_some]
    exact of_decide_eq_true (isEmpty_failures.1 hsuccess path hpath)
  | none =>
    -- The authority would have granted each path, and so the list.
    rw [hfailed, Option.getD_none, refused, isEmpty_failures] at hsuccess
    intro path hpath
    exfalso
    cases hu : s.remote.users.get? username with
    | none =>
      have hgrants := hsuccess path hpath
      rw [grants_forTarget_unknown hscope hu] at hgrants
      cases hgrants
    | some u =>
      rw [(grants_forPaths hscope hu).2 hsuccess] at hrefused
      cases hrefused

theorem Follows.stale_checkList_iff (h : Follows config Outlives s)
    (hadmin : config.adminName ≠ username) (paths : List Pattern) :
    (s.checkList (inMemory config).client username paths p option).1.status.isSuccess = true ∧
        (inMemory config).grants s.remote (forPaths username p paths option) = false ↔
      p.check .path = .ok () ∧
        (inMemory config).grants s.remote (forPaths username p paths option) = false ∧
        ∀ path ∈ paths, s.Decided username p (.path path) option ∧
          ((inMemory config).grants s.remote (forTarget username p (.path path) option) = true ∨
            s.fresh.PassesByLapse username p (.path path) option) := by
  cases hscope : p.check .path with
  | error fault =>
    rw [checkList_misplaced hscope, Privilege.isSuccess_of_check hscope]
    simp
  | ok =>
    have hnode : s.node.adminName ≠ username := h.adminName ▸ hadmin
    have hconsent (path : Pattern) :
        s.fresh.node.cachedVerdict username p (.path path) option = some true ↔ _ :=
      h.fresh.consent_iff hscope hadmin
    constructor
    · rintro ⟨hsuccess, hrefused⟩
      refine ⟨rfl, hrefused, fun path hpath => (hconsent path).1 ?_⟩
      exact consent_of_isSuccess_checkList hscope hnode hrefused hsuccess path hpath
    · rintro ⟨-, hrefused, hpaths⟩
      refine ⟨isSuccess_checkList_of_consent hscope hnode fun path hpath => ?_, hrefused⟩
      exact (hconsent path).2 (hpaths path hpath)

/-- After any run, a yes to a user other than the administrator has the authority's consent, unless
the node decides by itself and lists the user under roles that are gone and would allow it. -/
theorem run_grants_iff {a : Authority Registry} {registry : Registry}
    (hopen : (openMemory config).run .empty = (.ok a, registry)) (events : List Event)
    (hadmin : config.adminName ≠ username) :
    let s := (cold config registry).run a.client events
    (∀ p target option,
      ((s.check a.client username p target option).1.isSuccess = true →
        a.grants s.remote (forTarget username p target option) = true) ↔
      ¬ (p.check target.scope = .ok () ∧
        a.grants s.remote (forTarget username p target option) = false ∧
        s.Decided username p target option ∧
        s.fresh.PassesByLapse username p target option)) ∧
    ∀ paths p option,
      ((s.checkList a.client username paths p option).1.status.isSuccess = true →
        a.grants s.remote (forPaths username p paths option) = true) ↔
      ¬ (p.check .path = .ok () ∧
        a.grants s.remote (forPaths username p paths option) = false ∧
        ∀ path ∈ paths, s.Decided username p (.path path) option ∧
          (a.grants s.remote (forTarget username p (.path path) option) = true ∨
            s.fresh.PassesByLapse username p (.path path) option)) := by
  obtain ⟨rfl, hcold⟩ := follows_opened (R := Outlives) hopen (rfl : config.adminName = _)
  intro s
  have hs : Follows config Outlives s :=
    hcold.run Outlives.refl events fun _ _ _ _ h => h.removeRole _
  constructor
  · intro p target option
    rw [← hs.stale_check_iff hadmin, not_and, Bool.not_eq_false]
  · intro paths p option
    rw [← hs.stale_checkList_iff hadmin paths, not_and, Bool.not_eq_false]

/-- A role that was removed, made anew and given a privilege lets a former member pass. -/
theorem grants_false_of_lapse :
    let s := (cold .standard (.founded .standard)).run (inMemory .standard).client
      (lapse [.grantRole "role1" .useUdf .system false])
    (s.check (inMemory .standard).client "user1" .useUdf .system false).1.isSuccess = true ∧
      (inMemory .standard).grants s.remote (forTarget "user1" .useUdf .system false) = false := by
  decide +kernel

theorem passesByLapse_role1 :
    let s := (cold .standard (.founded .standard)).run (inMemory .standard).client
      (lapse [.grantRole "role1" .useUdf .system false])
    s.Decided "user1" .useUdf .system false ∧
      s.fresh.PassesByLapse "user1" .useUdf .system false := by
  intro s
  have hopen : (openMemory .standard).run .empty =
      (.ok (inMemory .standard), .founded .standard) := rfl
  have hstale : (s.check (inMemory .standard).client "user1" .useUdf .system false).1.isSuccess =
      true ∧ (inMemory .standard).grants s.remote (forTarget "user1" .useUdf .system false) =
        false := by decide +kernel
  have hadmin : Config.standard.adminName ≠ "user1" := by decide
  have hfails := mt ((run_grants_iff hopen _ hadmin).1 .useUdf .system false).2 fun hbacked => by
    have hgrants := hbacked hstale.1
    rw [hstale.2] at hgrants
    cases hgrants
  exact (Classical.not_not.1 hfails).2.2

end Warden.Site
