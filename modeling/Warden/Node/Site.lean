import Warden.Node.Answers

namespace Warden

structure Site (ρ : Type) where
  node : Node
  remote : ρ

namespace Site

variable {ρ : Type}

/-- Puts a request to the remote side and has the node take in the answer. -/
def ask {α β : Type} (s : Site ρ) (request : Action ρ α) (take : Node → Except Fault α → β × Node) :
    β × Site ρ :=
  let (answer, remote) := request.run s.remote
  let (b, node) := take s.node answer
  (b, ⟨node, remote⟩)

theorem fst_ask {α β : Type} (s : Site ρ) (request : Action ρ α)
    (take : Node → Except Fault α → β × Node) :
    (s.ask request take).1 = (take s.node (request.run s.remote).1).1 := rfl

/-- Drops a stale cache. -/
def fresh (s : Site ρ) : Site ρ := { s with node := s.node.fresh }

def checkPrivilege (c : Client ρ) (s : Site ρ) (username : String) (p : Privilege)
    (target : Target) (option : Bool) : CheckOutcome × Site ρ :=
  let s := s.fresh
  match s.node.cachedVerdict username p target option with
  | some granted => (.ofBool granted, s)
  | none => s.ask (c.checkPrivilege (.forTarget username p target option)) Node.takeCheck

/-- An empty list needs no cache and no request. -/
def checkPaths (c : Client ρ) (s : Site ρ) (username : String) (paths : List Pattern)
    (p : Privilege) (option : Bool) : BatchOutcome × Site ρ :=
  if paths.isEmpty then (.checked [], s)
  else
    let s := s.fresh
    match s.node.cachedFailures username paths p option with
    | some failed => (.checked failed, s)
    | none =>
      s.ask (c.checkPrivilege (.forPaths username p paths option)) (·.takeBatch paths.length ·)

def authorizedTree (c : Client ρ) (s : Site ρ) (username : String) (p : Privilege) :
    Except Fault PatternTree × Site ρ :=
  match p.check .path with
  | .error fault => (.error fault, s)
  | .ok () =>
    let s := s.fresh
    match s.node.cachedTree username p with
    | some tree => (.ok tree, s)
    | none => s.ask (c.fetchTree (.forPaths username p [] false)) Node.takeTree

def login (c : Client ρ) (s : Site ρ) (username password : String) : Status × Site ρ :=
  let s := s.fresh
  match s.node.cachedUser? username with
  | some u =>
    (if u.accepts username password then .success else Authority.authenticationFailed, s)
  | none => s.ask (c.login ⟨username, password⟩) Node.takeLogin

def checkRole (c : Client ρ) (s : Site ρ) (username rolename : String) : Membership × Site ρ :=
  let s := s.fresh
  match s.node.cachedUser? username with
  | some u => (if u.openId || u.hasRole rolename then .hasRole else .notGranted, s)
  | none => s.ask (c.checkMembership ⟨username, rolename⟩) Node.takeMembership

def operate (c : Client ρ) (s : Site ρ) (o : Operation) : Status × Site ρ :=
  s.ask (c.operate o) (·.takeOperation o ·)

def query (c : Client ρ) (s : Site ρ) (q : Query) : Except Fault (List String) × Site ρ :=
  s.ask (c.query q) fun n answer => (Node.takeQuery answer, n)

end Site

end Warden
