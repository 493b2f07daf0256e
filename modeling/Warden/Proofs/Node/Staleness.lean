import Mathlib.Data.List.Induction
import Warden.Proofs.KeyMap
import Warden.Proofs.Node.Run

namespace Warden

/-- What can be demanded of a node apart from keeping time. -/
inductive Demand
  | check (username : String) (p : Privilege) (target : Target) (option : Bool)
  | paths (username : String) (paths : List Pattern) (p : Privilege) (option : Bool)
  | tree (username : String) (p : Privilege)
  | login (username password : String)
  | role (username rolename : String)
  | operate (o : Operation)
  | invalidate (username rolename : String)
  deriving DecidableEq

inductive Answer
  | check (outcome : CheckOutcome)
  | paths (outcome : BatchOutcome)
  | tree (answer : Except Fault PatternTree)
  | login (status : Status)
  | role (membership : Membership)
  | operate (status : Status)
  /-- Whether there was anything to forget. -/
  | invalidated (removed : Bool)

inductive Moment
  | heartbeat (now : Duration)
  | demand (d : Demand)
  deriving DecidableEq

namespace Demand

/-- Whether a demand looks at the cache. A list without paths is in order, a tree for a privilege
outside its scope is refused, and changes go to the remote side at once. -/
def consults : Demand → Bool
  | check .. | login .. | role .. => true
  | paths _ list _ _ => !list.isEmpty
  | tree _ p => p.scope = .path
  | operate _ | invalidate .. => false

end Demand

namespace Site

variable {ρ : Type}

def answer (c : Client ρ) (s : Site ρ) : Demand → Answer × Site ρ
  | .check username p target option =>
    let (outcome, s) := s.checkPrivilege c username p target option
    (.check outcome, s)
  | .paths username paths p option =>
    let (outcome, s) := s.checkPaths c username paths p option
    (.paths outcome, s)
  | .tree username p =>
    let (answer, s) := s.authorizedTree c username p
    (.tree answer, s)
  | .login username password =>
    let (status, s) := s.login c username password
    (.login status, s)
  | .role username rolename =>
    let (membership, s) := s.checkRole c username rolename
    (.role membership, s)
  | .operate o =>
    let (status, s) := s.operate c o
    (.operate status, s)
  | .invalidate username rolename =>
    let (removed, node) := s.node.invalidate username rolename
    (.invalidated removed, { s with node })

def meet (c : Client ρ) (s : Site ρ) : Moment → Option Answer × Site ρ
  | .heartbeat now => (none, { s with node := s.node.heartbeat now })
  | .demand d =>
    let (answer, s) := s.answer c d
    (some answer, s)

def follow (c : Client ρ) (s : Site ρ) (moments : List Moment) : Site ρ :=
  moments.foldl (fun s m => (s.meet c m).2) s

def answers (c : Client ρ) : Site ρ → List Moment → List (Option Answer)
  | _, [] => []
  | s, m :: moments => (s.meet c m).1 :: answers c (s.meet c m).2 moments

def withCache (s : Site ρ) (cache : Cache) : Site ρ := { s with node := { s.node with cache } }

def emptied (s : Site ρ) : Site ρ :=
  { s with node := { s.node with cache := .empty, stale := false } }

end Site

structure Node.Grows (n n' : Node) : Prop where
  rest : n' = { n with cache := n'.cache }
  user : ∀ username, (n.cachedUser? username).isSome = true →
    (n'.cachedUser? username).isSome = true
  role : ∀ rolename, (n.cache.roles.get? rolename).isSome = true →
    (n'.cache.roles.get? rolename).isSome = true

namespace Node

variable {n n' : Node}

theorem Grows.refl (n : Node) : n.Grows n where
  rest := rfl
  user _ h := h
  role _ h := h

theorem Grows.stale (h : n.Grows n') : n'.stale = n.stale := by rw [h.rest]

theorem fresh_of_stale (h : n.stale = true) :
    n.fresh = { n with cache := .empty, stale := false } := by
  rw [fresh, refresh, if_pos h]

theorem fresh_of_current (h : n.stale = false) : n.fresh = n := by
  rw [fresh, refresh, if_neg (Bool.eq_false_iff.1 h)]

theorem stale_fresh (n : Node) : n.fresh.stale = false := by
  cases h : n.stale with
  | false => rw [fresh_of_current h, h]
  | true => rw [fresh_of_stale h]

theorem stale_heartbeat (n : Node) (now : Duration) : (n.heartbeat now).stale = true ↔
    n.stale = true ∨ ∃ previous, n.lastHeartbeat = some previous ∧
      previous.nanos + n.heartbeatTimeout.nanos < now.nanos := by
  rw [heartbeat, Bool.or_eq_true, Option.any_eq_true]
  refine or_congr_right (exists_congr fun previous => and_congr_right fun _ => ?_)
  rw [decide_eq_true_iff]
  omega

end Node

namespace Site

variable {ρ : Type} {c : Client ρ} {s t : Site ρ} {d : Demand}

theorem fresh_fresh (s : Site ρ) : s.fresh.fresh = s.fresh := by
  rw [fresh, Node.fresh_of_current]
  exact Node.stale_fresh s.node

theorem fresh_of_stale (h : s.node.stale = true) : s.fresh = s.emptied := by
  rw [fresh, Node.fresh_of_stale h]
  rfl

theorem fresh_of_current (h : s.node.stale = false) : s.fresh = s := by
  rw [fresh, Node.fresh_of_current h]

/-- Whoever looks at the cache looks whether it is stale before. -/
theorem answer_fresh (hconsults : d.consults = true) : s.answer c d = s.fresh.answer c d := by
  cases d with
  | check => simp only [answer, checkPrivilege, fresh_fresh]
  | paths username paths p option =>
    have hpaths : paths.isEmpty = false := by simpa [Demand.consults] using hconsults
    simp only [answer, checkPaths, fresh_fresh, hpaths, if_neg Bool.false_ne_true]
  | tree username p =>
    have hscope : p.check .path = .ok () := Privilege.check_eq_ok (of_decide_eq_true hconsults)
    simp only [answer, authorizedTree, fresh_fresh, hscope]
  | login => simp only [answer, login, fresh_fresh]
  | role => simp only [answer, checkRole, fresh_fresh]
  | operate => cases hconsults
  | invalidate => cases hconsults

/-- The same site, or a stale one with another cache. -/
def Alike (K : Cache → Cache → Prop) (s t : Site ρ) : Prop :=
  s = t ∨ s.node.stale = true ∧ ∃ cache, t = s.withCache cache ∧ K s.node.cache cache

section Alike

variable {α : Type} {K : Cache → Cache → Prop} {view : Answer → α}
  (hview : ∀ {a b : Cache} (username rolename : String), K a b →
    view (.invalidated (a.invalidate username rolename).1) =
      view (.invalidated (b.invalidate username rolename).1))
  (hK : ∀ {a b : Cache} (username rolename : String), K a b →
    K (a.invalidate username rolename).2 (b.invalidate username rolename).2)

include hview hK

theorem Alike.answer (h : Alike K s t) (d : Demand) :
    view (s.answer c d).1 = view (t.answer c d).1 ∧
      Alike K (s.answer c d).2 (t.answer c d).2 := by
  rcases h with rfl | ⟨hstale, cache, rfl, hcache⟩
  · exact ⟨rfl, .inl rfl⟩
  cases hconsults : d.consults with
  | true =>
    -- Both sides look at an empty cache.
    have hsame : s.answer c d = (s.withCache cache).answer c d := by
      rw [answer_fresh hconsults, answer_fresh (s := s.withCache cache) hconsults,
        fresh_of_stale hstale, fresh_of_stale (s := s.withCache cache) hstale]
      rfl
    rw [hsame]
    exact ⟨rfl, .inl rfl⟩
  | false =>
    cases d with
    | check => cases hconsults
    | login => cases hconsults
    | role => cases hconsults
    | paths username paths p option =>
      have hpaths : paths.isEmpty = true := by simpa [Demand.consults] using hconsults
      simp only [Site.answer, checkPaths, if_pos hpaths]
      exact ⟨trivial, .inr ⟨hstale, cache, rfl, hcache⟩⟩
    | tree username p =>
      have hscope : p.scope ≠ .path := of_decide_eq_false hconsults
      simp only [Site.answer, authorizedTree, Privilege.check, if_neg hscope]
      exact ⟨trivial, .inr ⟨hstale, cache, rfl, hcache⟩⟩
    | operate o =>
      simp only [Site.answer, operate, ask, Site.withCache]
      cases (c.operate o).run s.remote with
      | mk answer remote =>
        cases answer with
        | error fault => exact ⟨rfl, .inr ⟨hstale, cache, rfl, hcache⟩⟩
        | ok status =>
          simp only [Node.takeOperation]
          split
          · exact ⟨rfl, .inr ⟨hstale, _, rfl, hK o.affected.1 o.affected.2 hcache⟩⟩
          · exact ⟨rfl, .inr ⟨hstale, cache, rfl, hcache⟩⟩
    | invalidate username rolename =>
      exact ⟨hview username rolename hcache,
        .inr ⟨hstale, _, rfl, hK username rolename hcache⟩⟩

theorem Alike.answers (h : Alike K s t) (later : List Moment) :
    (s.answers c later).map (·.map view) = (t.answers c later).map (·.map view) ∧
      (s.follow c later).remote = (t.follow c later).remote := by
  induction later generalizing s t with
  | nil =>
    refine ⟨rfl, ?_⟩
    rcases h with rfl | ⟨-, cache, rfl, -⟩ <;> rfl
  | cons m later ih =>
    cases m with
    | heartbeat now =>
      have hnext : Alike K (s.meet c (.heartbeat now)).2 (t.meet c (.heartbeat now)).2 := by
        rcases h with rfl | ⟨hstale, cache, rfl, hcache⟩
        · exact .inl rfl
        · exact .inr ⟨(Node.stale_heartbeat s.node now).2 (.inl hstale), cache, rfl, hcache⟩
      obtain ⟨hanswers, hremote⟩ := ih hnext
      exact ⟨congrArg (none :: ·) hanswers, hremote⟩
    | demand d =>
      obtain ⟨hanswer, hnext⟩ := h.answer hview hK d (c := c)
      obtain ⟨hanswers, hremote⟩ := ih hnext
      refine ⟨?_, hremote⟩
      rw [Site.answers, Site.answers, List.map_cons, List.map_cons, List.cons.injEq]
      exact ⟨congrArg some hanswer, hanswers⟩

end Alike

def SameNames (a b : Cache) : Prop :=
  (∀ username, a.users.contains username = b.users.contains username) ∧
    ∀ rolename, a.roles.contains rolename = b.roles.contains rolename

theorem SameNames.removed {a b : Cache} (h : SameNames a b) (username rolename : String) :
    (a.invalidate username rolename).1 = (b.invalidate username rolename).1 := by
  unfold Cache.invalidate
  rw [h.1, h.2]
  split <;> rfl

theorem SameNames.invalidate {a b : Cache} (h : SameNames a b) (username rolename : String) :
    SameNames (a.invalidate username rolename).2 (b.invalidate username rolename).2 := by
  constructor
  · intro name
    rw [Cache.users_invalidate, Cache.users_invalidate, KeyMap.contains_erase, KeyMap.contains_erase, h.1]
  · intro name
    rw [Cache.roles_invalidate, Cache.roles_invalidate]
    split
    · exact h.2 name
    · rw [KeyMap.contains_erase, KeyMap.contains_erase, h.2]

end Site

/-- Without the word on whether there was anything to forget. -/
def Answer.verdict : Answer → Option Answer
  | .invalidated _ => none
  | answer => some answer

namespace Site

variable {ρ : Type} {c : Client ρ} {s : Site ρ} {d : Demand}

end Site

end Warden
