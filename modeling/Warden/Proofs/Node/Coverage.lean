import Warden.Proofs.Authority.Integrity
import Warden.Proofs.Node.Transparency

namespace Warden

namespace Pattern

theorem covers_everything (q : Pattern) : everything.covers q = true := by
  have hhead := q.formed.head
  rw [covers]
  cases hs : q.segments with
  | nil =>
    rw [hs] at hhead
    cases hhead
  | cons s rest =>
    rw [hs] at hhead
    obtain rfl : s = "root" := Option.some.inj hhead
    have hrest : coversSegments [anyRest] rest = true := by cases rest <;> simp [coversSegments]
    exact (coversSegments_cons (by decide)).2 ⟨by decide, .inr rfl, hrest⟩

end Pattern

theorem PatternTree.covers_everything (q : Pattern) : everything.covers q = true :=
  covers_iff.2 ⟨.everything, List.mem_singleton_self _, Pattern.covers_everything q⟩

theorem PatternTree.covers_empty (q : Pattern) : empty.covers q = false := rfl

/-- A privilege is held on a path by a pattern that covers it. -/
theorem Grants.allows_path_iff {g : Grants} {p : Privilege} {q : Pattern} :
    g.allows p (.path q) false = true ↔ ∃ x ∈ g.patternsGranting p, x.covers q = true := by
  change PathGrants.allows g.paths q p false = true ↔
    ∃ x ∈ PathGrants.patternsGranting g.paths p, x.covers q = true
  simp only [PathGrants.allows, PathGrants.patternsGranting, List.any_eq_true, List.mem_map,
    List.mem_filter, PathGrant.allows, Bool.and_eq_true]
  constructor
  · rintro ⟨entry, hentry, hheld, hcovers⟩
    exact ⟨entry.pattern, ⟨entry, ⟨hentry, hheld⟩, rfl⟩, hcovers⟩
  · rintro ⟨_, ⟨entry, ⟨hentry, hheld⟩, rfl⟩, hcovers⟩
    exact ⟨entry, hentry, hheld, hcovers⟩

namespace Site

open Authority PrivilegeRequest

variable {config : Config} {s : Site Registry} {username : String} {p : Privilege}

/-- Merging patterns into a tree loses no path that one of the holders' grants allows. -/
theorem covers_granted_iff {registry : Registry} {u : User} {q : Pattern} :
    (granted config registry username u p).covers q = true ↔
      config.adminName = username ∨ registry.allows u p (.path q) false = true := by
  by_cases hadmin : config.adminName = username
  · simp [granted, hadmin, PatternTree.covers_everything]
  have hroles : (∃ r ∈ registry.rolesNamed u.roles.keys,
      ∃ x ∈ r.grants.patternsGranting p, x.covers q = true) ↔
      (registry.rolesNamed u.roles.keys).any (·.allows p (.path q) false) = true := by
    rw [List.any_eq_true]
    exact exists_congr fun r => and_congr_right fun _ => Grants.allows_path_iff.symm
  rw [granted, Registry.allows, User.allows, or_iff_right hadmin]
  cases hopen : u.openId with
  | true => simp [PatternTree.covers_everything]
  | false =>
    rw [decide_eq_false hadmin, Bool.false_or, if_neg Bool.false_ne_true,
      PatternTree.covers_ofHolders, hroles, Bool.false_or, Bool.or_eq_true,
      Grants.allows_path_iff]

theorem isSuccess_statusOf (p : Privilege) (target : Target) (granted : Bool) :
    (statusOf p target (.ofBool granted)).isSuccess = granted := by
  rw [Status.isSuccess, code_statusOf]
  cases granted <;> rfl

/-- A node that keeps nothing but what is stored. -/
theorem follows_intact {registry : Registry} (hlength : 0 < config.minNameLength)
    (hintact : registry.Intact config) {n : Node} (hadmin : n.adminName = config.adminName)
    (husers : ∀ username u, n.cachedUser? username = some u →
      registry.users.get? username = some u)
    (hroles : ∀ rolename r, n.cache.roles.get? rolename = some r →
      registry.roles.get? rolename = some r) : Follows config Eq ⟨n, registry⟩ where
  length := hlength
  adminName := hadmin
  named := hintact.named
  unnamed := hintact.unnamed
  user hu := ⟨_, husers _ _ hu, rfl⟩
  role hr := hroles _ _ hr

/-- A node that keeps nothing but what is stored, beside an authority after any history. -/
theorem follows_after {a : Authority Registry} {registry : Registry}
    (hopen : (openMemory config).run .empty = (.ok a, registry)) (acts : List Act) {n : Node}
    (hadmin : n.adminName = config.adminName)
    (husers : ∀ username u, n.cachedUser? username = some u →
      (a.after registry acts).users.get? username = some u)
    (hroles : ∀ rolename r, n.cache.roles.get? rolename = some r →
      (a.after registry acts).roles.get? rolename = some r) :
    a = inMemory config ∧ Follows config Eq ⟨n, a.after registry acts⟩ := by
  have hflaw : config.flaw? = none := Config.flaw?_of_validate (validate_of_openMemory hopen)
  obtain ⟨rfl, hintact⟩ := intact_after hopen acts
  exact ⟨rfl, follows_intact (Config.minNameLength_pos hflaw) hintact hadmin husers hroles⟩

theorem Follows.tree_agrees (h : Follows config Eq s) (hscope : p.check .path = .ok ())
    (username : String) : ∃ t, (s.tree (inMemory config).client username p).1 = .ok t ∧
      ∀ q, t.covers q = true ↔
        (s.check (inMemory config).client username p (.path q) false).1.isSuccess = true := by
  have htree := Reply.tree.inj (h.tree_due username p)
  have hcheck (q : Pattern) := Reply.check.inj (h.check_due username p (.path q) false)
  have hpath (q : Pattern) : p.check (Target.path q).scope = .ok () := hscope
  simp only [hscope, Except.map] at htree
  simp only [hpath] at hcheck
  refine ⟨_, htree, fun q => ?_⟩
  rw [hcheck q]
  by_cases hadmin : config.adminName = username
  · rw [if_pos hadmin, if_pos hadmin]
    exact iff_of_true (PatternTree.covers_everything q) rfl
  · rw [if_neg hadmin, if_neg hadmin, isSuccess_statusOf]
    cases hu : s.remote.users.get? username with
    | none =>
      rw [grants_forTarget_unknown (hpath q) hu]
      exact iff_of_false (by simp [PatternTree.covers_empty]) Bool.false_ne_true
    | some u =>
      rw [grants_forTarget (hpath q) hadmin hu]
      exact covers_granted_iff.trans (or_iff_right hadmin)

/-- Whatever was asked of an authority before, and whichever stored users and roles a node has
cached: everyone has a tree for each privilege on paths, and the tree covers exactly the patterns,
with wildcards or without, on which a check succeeds. -/
theorem tree_covers_iff_check {a : Authority Registry} {registry : Registry}
    (hopen : (openMemory config).run .empty = (.ok a, registry)) (acts : List Act) {n : Node}
    (hadmin : n.adminName = config.adminName)
    (husers : ∀ username u, n.cachedUser? username = some u →
      (a.after registry acts).users.get? username = some u)
    (hroles : ∀ rolename r, n.cache.roles.get? rolename = some r →
      (a.after registry acts).roles.get? rolename = some r)
    (hscope : p.scope = .path) (username : String) :
    let s : Site Registry := ⟨n, a.after registry acts⟩
    ∃ t, (s.tree a.client username p).1 = .ok t ∧
      ∀ q, t.covers q = true ↔
        (s.check a.client username p (.path q) false).1.isSuccess = true := by
  have hflaw : config.flaw? = none := Config.flaw?_of_validate (validate_of_openMemory hopen)
  obtain ⟨rfl, hintact⟩ := intact_after hopen acts
  have hfollows : Follows config Eq ⟨n, (inMemory config).after registry acts⟩ :=
    follows_intact (Config.minNameLength_pos hflaw) hintact hadmin husers hroles
  exact hfollows.tree_agrees (Privilege.check_eq_ok hscope) username

/-- A node that has seen the users and none of the roles: the tree of a user who holds the privilege
through a role covers what the role's pattern covers, and no pattern above it. -/
theorem tree_covers_below_sg :
    let path (text : String) := (Pattern.parse text).toOption.getD .everything
    let acts : List Act := [.apply (.createUser "alice" "secret"), .apply (.createRole "reader"),
      .apply (.grantRole "reader" .readData (.path (path "root.sg.**")) false),
      .apply (.grantRoleToUser "reader" "alice")]
    let registry := (inMemory .standard).after (.founded .standard) acts
    let n : Node := { Node.ofConfig .standard with cache := ⟨registry.users, .empty⟩ }
    let s : Site Registry := ⟨n, registry⟩
    ∃ t, (s.tree (inMemory .standard).client "alice" .readData).1 = .ok t ∧
      t.covers (path "root.sg.*.**") = true ∧ t.covers (path "root.*") = false := by
  intro path acts registry n s
  have hopen : (openMemory .standard).run .empty =
      (.ok (inMemory .standard), .founded .standard) := rfl
  obtain ⟨t, ht, hcovers⟩ := tree_covers_iff_check hopen acts (n := n) rfl (fun _ _ hu => hu)
    (fun _ _ hr => by cases hr) (p := .readData) rfl "alice"
  refine ⟨t, ht, (hcovers _).2 ?_, Bool.eq_false_iff.2 fun habove => ?_⟩
  · decide +kernel
  · have hno : (s.check (inMemory .standard).client "alice" .readData (.path (path "root.*"))
        false).1.isSuccess = false := by decide +kernel
    rw [(hcovers _).1 habove] at hno
    cases hno

end Site

end Warden
