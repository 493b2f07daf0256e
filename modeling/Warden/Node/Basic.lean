import Warden.Config
import Warden.Message.Check
import Warden.Message.Management

namespace Warden

structure Cache where
  users : KeyMap User
  roles : KeyMap Role
  deriving DecidableEq

namespace Cache

def empty : Cache := ⟨.empty, .empty⟩

def putUser (c : Cache) (u : User) : Cache := { c with users := c.users.insert u.name u }

def putRole (c : Cache) (r : Role) : Cache := { c with roles := c.roles.insert r.name r }

/-- Forgets a user, and a role unless its name is empty. The answer tells whether one was there. -/
def invalidate (c : Cache) (username rolename : String) : Bool × Cache :=
  let users := c.users.erase username
  if rolename = "" then (c.users.contains username, { c with users })
  else
    (c.users.contains username || c.roles.contains rolename,
     { users, roles := c.roles.erase rolename })

theorem users_invalidate (c : Cache) (username rolename : String) :
    (c.invalidate username rolename).2.users = c.users.erase username := by
  by_cases h : rolename = "" <;> simp [invalidate, h]

theorem roles_invalidate (c : Cache) (username rolename : String) :
    (c.invalidate username rolename).2.roles =
      if rolename = "" then c.roles else c.roles.erase rolename := by
  by_cases h : rolename = "" <;> simp [invalidate, h]

/-- Whether one of the roles passes a check; none when a role before it is not known. -/
def rolesVerdict (c : Cache) (p : Privilege) (target : Target) (option : Bool) :
    List String → Option Bool
  | [] => some false
  | rolename :: rolenames =>
    match c.roles.get? rolename with
    | none => none
    | some r =>
      if r.allows p target option then some true else c.rolesVerdict p target option rolenames

/-- A check of a known user, as far as it can be decided here. -/
def verdict (c : Cache) (u : User) (p : Privilege) (target : Target) (option : Bool) :
    Option Bool :=
  if u.allows p target option then some true else c.rolesVerdict p target option u.roles.keys

/-- The positions of the paths that fail, counted from `start`. -/
def failures (c : Cache) (u : User) (p : Privilege) (option : Bool) :
    Nat → List Pattern → Option (List Nat)
  | _, [] => some []
  | start, path :: paths =>
    match c.verdict u p (.path path) option with
    | none => none
    | some passed =>
      (c.failures u p option (start + 1) paths).map fun failed =>
        if passed then failed else start :: failed

def knownRoles (c : Cache) : List String → Option (List Role)
  | [] => some []
  | rolename :: rolenames => do
    let r ← c.roles.get? rolename
    return r :: (← c.knownRoles rolenames)

def tree (c : Cache) (u : User) (p : Privilege) : Option PatternTree :=
  if u.openId then some .everything
  else (c.knownRoles u.roles.keys).map (PatternTree.ofHolders p u)

end Cache

structure Node where
  adminName : String
  heartbeatTimeout : Duration
  cache : Cache
  stale : Bool
  lastHeartbeat : Option Duration
  acceptCache : Bool
  /-- How many privilege checks were answered. -/
  checks : Nat
  deriving DecidableEq

namespace Node

def ofConfig (c : Config) : Node where
  adminName := c.adminName
  heartbeatTimeout := c.heartbeatTimeout
  cache := .empty
  stale := false
  lastHeartbeat := none
  acceptCache := c.acceptCache
  checks := 0

def isSuperUser (n : Node) (username : String) : Bool := n.adminName = username

/-- A heartbeat at a time, counted from any fixed point; times may go backwards. -/
def heartbeat (n : Node) (now : Duration) : Node :=
  let late := n.lastHeartbeat.any fun previous =>
    n.heartbeatTimeout.nanos < now.nanos - previous.nanos
  { n with stale := n.stale || late, lastHeartbeat := some now }

/-- Before the cache is used: forgets all of it if it is stale. The answer tells whether it was. -/
def refresh (n : Node) : Bool × Node :=
  if n.stale then (true, { n with stale := false, cache := .empty }) else (false, n)

def fresh (n : Node) : Node := n.refresh.2

def invalidate (n : Node) (username rolename : String) : Bool × Node :=
  let (removed, cache) := n.cache.invalidate username rolename
  (removed, { n with cache })

theorem cache_invalidate (n : Node) (username rolename : String) :
    (n.invalidate username rolename).2.cache = (n.cache.invalidate username rolename).2 := rfl

/-- Keeps what an answer brought along, if the node is set to keep anything. -/
def remember (n : Node) (user : Option User) (roles : List Role) : Node :=
  if n.acceptCache then
    let cache := roles.foldl Cache.putRole n.cache
    { n with cache := user.elim cache cache.putUser }
  else n

def cachedUser? (n : Node) (username : String) : Option User := n.cache.users.get? username

def cachedVerdict (n : Node) (username : String) (p : Privilege) (target : Target)
    (option : Bool) : Option Bool :=
  (n.cachedUser? username).bind fun u => n.cache.verdict u p target option

def cachedFailures (n : Node) (username : String) (paths : List Pattern) (p : Privilege)
    (option : Bool) : Option (List Nat) :=
  (n.cachedUser? username).bind fun u => n.cache.failures u p option 0 paths

def cachedTree (n : Node) (username : String) (p : Privilege) : Option PatternTree :=
  (n.cachedUser? username).bind fun u => n.cache.tree u p

end Node

end Warden
