import Warden.Node.Gate
import Warden.Proofs.Authority.Frame

namespace Warden

inductive Question
  | check (username : String) (p : Privilege) (target : Target) (option : Bool)
  | checkList (username : String) (paths : List Pattern) (p : Privilege) (option : Bool)
  | tree (username : String) (p : Privilege)
  | login (username password : String)
  | role (username rolename : String)
  deriving DecidableEq

inductive Reply
  | check (status : Status)
  | checkList (result : PathsResult)
  | tree (answer : Except Fault PatternTree)
  | login (status : Status)
  | role (membership : Membership)

inductive Event
  | ask (q : Question)
  | operate (o : Operation)
  | query (q : Query)
  | heartbeat (now : Duration)
  | invalidate (username rolename : String)
  | acceptCache (accept : Bool)
  deriving DecidableEq

namespace Site

variable {ρ : Type}

def reply (c : Client ρ) (s : Site ρ) : Question → Reply × Site ρ
  | .check username p target option =>
    let (status, s) := s.check c username p target option
    (.check status, s)
  | .checkList username paths p option =>
    let (result, s) := s.checkList c username paths p option
    (.checkList result, s)
  | .tree username p =>
    let (answer, s) := s.tree c username p
    (.tree answer, s)
  | .login username password =>
    let (status, s) := s.login c username password
    (.login status, s)
  | .role username rolename =>
    let (membership, s) := s.checkRole c username rolename
    (.role membership, s)

def step (c : Client ρ) (s : Site ρ) : Event → Site ρ
  | .ask q => (s.reply c q).2
  | .operate o => (s.operate c o).2
  | .query q => (s.query c q).2
  | .heartbeat now => { s with node := s.node.heartbeat now }
  | .invalidate username rolename => { s with node := (s.node.invalidate username rolename).2 }
  | .acceptCache accept => { s with node := { s.node with acceptCache := accept } }

def run (c : Client ρ) (s : Site ρ) (events : List Event) : Site ρ := events.foldl (step c) s

def cold (config : Config) (remote : ρ) : Site ρ := ⟨.ofConfig config, remote⟩

/-- The cache has nothing that the registry does not have, whoever the node's super user is. -/
structure Tracks (superUser : String) (config : Config) (R : User → User → Prop)
    (s : Site Registry) : Prop where
  length : 0 < config.minNameLength
  adminName : s.node.adminName = superUser
  named : s.remote.Named
  unnamed : s.remote.roles.get? "" = none
  user : ∀ {username u}, s.node.cachedUser? username = some u →
    ∃ v, s.remote.users.get? username = some v ∧ R u v
  role : ∀ {rolename r}, s.node.cache.roles.get? rolename = some r →
    s.remote.roles.get? rolename = some r

abbrev Follows (config : Config) := Tracks config.adminName config

variable {superUser : String} {config : Config} {R : User → User → Prop} {s : Site Registry}
  {n : Node}

theorem tracks_cold {settings : Config} {registry : Registry} (hlength : 0 < config.minNameLength)
    (hnamed : registry.Named) (hunnamed : registry.roles.get? "" = none) :
    Tracks settings.adminName config R (cold settings registry) where
  length := hlength
  adminName := rfl
  named := hnamed
  unnamed := hunnamed
  user h := by cases h
  role h := by cases h

/-- A new node beside an authority that was just opened. -/
theorem tracks_opened (settings : Config) {a : Authority Registry} {registry : Registry}
    (hopen : (Authority.openMemory config).run .empty = (.ok a, registry)) :
    a = Authority.inMemory config ∧ Tracks settings.adminName config R (cold settings registry) := by
  have hvalid := Authority.validate_of_openMemory hopen
  obtain ⟨ha, rfl⟩ := Authority.of_openMemory hopen
  refine ⟨ha, tracks_cold ?_ (Registry.named_founded config) rfl⟩
  exact Config.minNameLength_pos (Config.flaw?_of_validate hvalid)

theorem follows_opened {settings : Config} {a : Authority Registry} {registry : Registry}
    (hopen : (Authority.openMemory config).run .empty = (.ok a, registry))
    (hadmin : settings.adminName = config.adminName) :
    a = Authority.inMemory config ∧ Follows config R (cold settings registry) := by
  obtain ⟨ha, htracks⟩ := tracks_opened (R := R) settings hopen
  rw [hadmin] at htracks
  exact ⟨ha, htracks⟩

theorem Tracks.mono {S : User → User → Prop} (h : Tracks superUser config R s)
    (hRS : ∀ u v, R u v → S u v) : Tracks superUser config S s where
  length := h.length
  adminName := h.adminName
  named := h.named
  unnamed := h.unnamed
  user hu := (h.user hu).imp fun v hv => hv.imp_right (hRS _ v)
  role := h.role

/-- A node may forget. -/
theorem Tracks.forget (h : Tracks superUser config R s) (hadmin : n.adminName = s.node.adminName)
    (husers : ∀ username u, n.cachedUser? username = some u →
      s.node.cachedUser? username = some u)
    (hroles : ∀ rolename r, n.cache.roles.get? rolename = some r →
      s.node.cache.roles.get? rolename = some r) : Tracks superUser config R ⟨n, s.remote⟩ where
  length := h.length
  adminName := hadmin.trans h.adminName
  named := h.named
  unnamed := h.unnamed
  user hu := h.user (husers _ _ hu)
  role hr := h.role (hroles _ _ hr)

theorem Tracks.fresh (h : Tracks superUser config R s) : Tracks superUser config R s.fresh := by
  refine h.forget ?_ (fun username u hu => ?_) fun rolename r hr => ?_
  · rw [Node.fresh, Node.refresh]
    split <;> rfl
  · rw [Node.fresh, Node.refresh] at hu
    split at hu
    · cases hu
    · exact hu
  · rw [Node.fresh, Node.refresh] at hr
    split at hr
    · cases hr
    · exact hr

theorem Tracks.counted (h : Tracks superUser config R s) : Tracks superUser config R s.counted :=
  h.forget rfl (fun _ _ hu => hu) fun _ _ hr => hr

theorem getUser_invalidate {username rolename name : String} {u : User}
    (hu : (n.invalidate username rolename).2.cachedUser? name = some u) :
    name ≠ username ∧ n.cachedUser? name = some u := by
  rw [Node.cachedUser?, Node.cache_invalidate, Cache.users_invalidate, KeyMap.get?_erase] at hu
  split at hu
  · cases hu
  · exact ⟨‹_›, hu⟩

theorem getRole_invalidate {username rolename name : String} {r : Role}
    (hr : (n.invalidate username rolename).2.cache.roles.get? name = some r) :
    (name = rolename → rolename = "") ∧ n.cache.roles.get? name = some r := by
  rw [Node.cache_invalidate, Cache.roles_invalidate] at hr
  split at hr
  · exact ⟨fun _ => ‹_›, hr⟩
  · rw [KeyMap.get?_erase] at hr
    split at hr
    · cases hr
    · exact ⟨fun hname => absurd hname ‹_›, hr⟩

theorem Tracks.invalidate (h : Tracks superUser config R s) (username rolename : String) :
    Tracks superUser config R ⟨(s.node.invalidate username rolename).2, s.remote⟩ :=
  h.forget rfl (fun _ _ hu => (getUser_invalidate hu).2) fun _ _ hr => (getRole_invalidate hr).2

def Brings (registry : Registry) (user : Option User) (roles : List Role) : Prop :=
  user = none ∧ roles = [] ∨ ∃ username u, registry.users.get? username = some u ∧ user = some u ∧
    roles = registry.rolesNamed u.roles.keys

theorem users_foldl_putRole (roles : List Role) (c : Cache) :
    (roles.foldl Cache.putRole c).users = c.users := by
  induction roles generalizing c with
  | nil => rfl
  | cons r roles ih => exact ih (c.putRole r)

theorem getRole_foldl_putRole {roles : List Role} {c : Cache} {rolename : String} {r : Role}
    (h : (roles.foldl Cache.putRole c).roles.get? rolename = some r) :
    r ∈ roles ∧ r.name = rolename ∨ c.roles.get? rolename = some r := by
  induction roles generalizing c with
  | nil => exact .inr h
  | cons x roles ih =>
    rcases ih h with ⟨hmem, hname⟩ | hcached
    · exact .inl ⟨List.mem_cons_of_mem x hmem, hname⟩
    · rw [Cache.putRole, KeyMap.get?_insert] at hcached
      split at hcached
      · rename_i hname
        cases hcached
        exact .inl ⟨List.mem_cons_self, hname.symm⟩
      · exact .inr hcached

theorem Tracks.remember (h : Tracks superUser config R s) (hrefl : ∀ u, R u u) {user : Option User}
    {roles : List Role} (hbrings : Brings s.remote user roles) :
    Tracks superUser config R ⟨s.node.remember user roles, s.remote⟩ := by
  rw [Node.remember]
  split
  · obtain ⟨rfl, rfl⟩ | ⟨name, v, hv, rfl, rfl⟩ := hbrings
    · exact h
    · constructor
      · exact h.length
      · exact h.adminName
      · exact h.named
      · exact h.unnamed
      · intro username u hu
        change ((List.foldl Cache.putRole s.node.cache _).users.insert v.name v).get? username =
          some u at hu
        -- A user comes in under its own name, which is the one it is stored under.
        rw [KeyMap.get?_insert, users_foldl_putRole, h.named.user hv] at hu
        split at hu
        · rename_i hname
          cases hu
          exact ⟨v, by rw [hname]; exact hv, hrefl v⟩
        · exact h.user hu
      · intro rolename r hr
        rcases getRole_foldl_putRole hr with ⟨hmem, rfl⟩ | hcached
        · obtain ⟨key, -, hstored⟩ := List.mem_filterMap.1 hmem
          have hname := h.named.role hstored
          change s.remote.roles.get? r.name = some r
          rw [hname]
          exact hstored
        · exact h.role hcached
  · exact h

section Answers

open Authority

variable {registry : Registry}

theorem brings_nothing : Brings registry none [] := .inl ⟨rfl, rfl⟩

theorem brings_stored {username : String} {u : User} (hu : registry.users.get? username = some u) :
    Brings registry (some u) (registry.rolesNamed u.roles.keys) := .inr ⟨username, u, hu, rfl, rfl⟩

theorem run_checkPrivilege_brings (r : PrivilegeRequest) :
    ∃ info, ((inMemory config).checkPrivilege r).run registry = (.ok info, registry) ∧
      Brings registry info.user info.roles := by
  cases hflaw : requestFlaw? r with
  | some status =>
    exact ⟨.bare status, run_checkPrivilege_flawed hflaw, brings_nothing⟩
  | none =>
    cases hu : registry.users.get? r.username with
    | none => exact ⟨_, run_checkPrivilege_unknown hflaw hu, brings_nothing⟩
    | some u => exact ⟨_, run_checkPrivilege_stored hflaw hu, brings_stored hu⟩

theorem run_login_brings (username password : String) :
    ∃ info, ((inMemory config).login ⟨username, password⟩).run registry = (.ok info, registry) ∧
      Brings registry info.user info.roles := by
  cases hu : registry.users.get? username with
  | none => exact ⟨_, run_login_unknown hu, brings_nothing⟩
  | some u =>
    refine ⟨_, run_login_stored hu, ?_⟩
    split
    · exact brings_stored hu
    · exact brings_nothing

theorem run_checkMembership_brings (username rolename : String) :
    ∃ info, ((inMemory config).checkMembership ⟨username, rolename⟩).run registry =
      (.ok info, registry) ∧ Brings registry info.user info.roles := by
  cases hu : registry.users.get? username with
  | none => exact ⟨_, run_checkMembership_unknown hu, brings_nothing⟩
  | some u => exact ⟨_, run_checkMembership_stored hu, brings_stored hu⟩

theorem run_fetchTree_brings {r : PrivilegeRequest} (hscope : r.privilege.check .path = .ok ()) :
    ∃ info, ((inMemory config).fetchTree r).run registry = (.ok info, registry) ∧
      Brings registry info.user info.roles := by
  cases hu : registry.users.get? r.username with
  | none => exact ⟨_, run_fetchTree_unknown hscope hu, brings_nothing⟩
  | some u => exact ⟨_, run_fetchTree_stored hscope hu, brings_stored hu⟩

/-- A node takes an answer in, or leaves it. -/
theorem Tracks.ask {α β : Type} {request : Action Registry α}
    {take : Node → Except Fault α → β × Node} (h : Tracks superUser config R s) (hrefl : ∀ u, R u u)
    (user : α → Option User) (roles : α → List Role)
    (hrequest : ∃ a, request.run s.remote = (.ok a, s.remote) ∧
      Brings s.remote (user a) (roles a))
    (htake : ∀ a, (take s.node (.ok a)).2 = s.node ∨
      (take s.node (.ok a)).2 = s.node.remember (user a) (roles a)) :
    Tracks superUser config R (s.ask request take).2 := by
  obtain ⟨a, hrun, hbrings⟩ := hrequest
  have hask : (s.ask request take).2 = ⟨(take s.node (.ok a)).2, s.remote⟩ := by
    rw [Site.ask, hrun]
  rw [hask]
  rcases htake a with hsame | hkept
  · rw [hsame]
    exact h
  · rw [hkept]
    exact h.remember hrefl hbrings

theorem node_takeInfo (n : Node) (info : PermissionInfo) :
    n.takeInfo info = n ∨ n.takeInfo info = n.remember info.user info.roles := by
  rw [Node.takeInfo]
  split
  · exact .inr rfl
  · exact .inl rfl

theorem node_takeTree (n : Node) (info : PatternTreeInfo) :
    (n.takeTree (.ok info)).2 = n ∨
      (n.takeTree (.ok info)).2 = n.remember info.user info.roles := by
  simp only [Node.takeTree]
  split
  · split
    · exact .inr rfl
    · exact .inl rfl
  · exact .inl rfl
  · exact .inl rfl
  · exact .inl rfl

theorem node_takeLogin (n : Node) (info : PermissionInfo) :
    (n.takeLogin (.ok info)).2 = n ∨
      (n.takeLogin (.ok info)).2 = n.remember info.user info.roles := by
  simp only [Node.takeLogin]
  split
  · exact node_takeInfo n info
  · exact .inl rfl
  · exact .inl rfl
  · exact .inl rfl

theorem node_takeMembership (n : Node) (info : PermissionInfo) :
    (n.takeMembership (.ok info)).2 = n ∨
      (n.takeMembership (.ok info)).2 = n.remember info.user info.roles := by
  simp only [Node.takeMembership]
  split
  · exact .inr rfl
  · exact .inr rfl
  · exact .inl rfl

end Answers

section Steps

open Authority

variable (hrefl : ∀ u, R u u)

include hrefl

theorem Tracks.checkPrivilege (h : Tracks superUser config R s) (username : String) (p : Privilege)
    (target : Target) (option : Bool) :
    Tracks superUser config R (s.checkPrivilege (inMemory config).client username p target option).2 := by
  rw [Site.checkPrivilege]
  split
  · exact h.fresh
  · exact h.fresh.ask hrefl _ _ (run_checkPrivilege_brings _) fun info => node_takeInfo _ info

theorem Tracks.checkPaths (h : Tracks superUser config R s) (username : String) (paths : List Pattern)
    (p : Privilege) (option : Bool) :
    Tracks superUser config R (s.checkPaths (inMemory config).client username paths p option).2 := by
  rw [Site.checkPaths]
  dsimp only
  split
  · exact h
  · split
    · exact h.fresh
    · exact h.fresh.ask hrefl _ _ (run_checkPrivilege_brings _) fun info => node_takeInfo _ info

theorem Tracks.authorizedTree (h : Tracks superUser config R s) (username : String) (p : Privilege) :
    Tracks superUser config R (s.authorizedTree (inMemory config).client username p).2 := by
  rw [Site.authorizedTree]
  split
  · exact h
  · rename_i hscope
    dsimp only
    split
    · exact h.fresh
    · exact h.fresh.ask hrefl _ _ (run_fetchTree_brings hscope) fun info => node_takeTree _ info

theorem Tracks.login (h : Tracks superUser config R s) (username password : String) :
    Tracks superUser config R (s.login (inMemory config).client username password).2 := by
  rw [Site.login]
  split
  · exact h.fresh
  · exact h.fresh.ask hrefl _ _ (run_login_brings _ _) fun info => node_takeLogin _ info

theorem Tracks.checkRole (h : Tracks superUser config R s) (username rolename : String) :
    Tracks superUser config R (s.checkRole (inMemory config).client username rolename).2 := by
  rw [Site.checkRole]
  split
  · exact h.fresh
  · exact h.fresh.ask hrefl _ _ (run_checkMembership_brings _ _) fun info =>
      node_takeMembership _ info

/-- Questions leave the cache following the registry. -/
theorem Tracks.reply (h : Tracks superUser config R s) (q : Question) :
    Tracks superUser config R (s.reply (inMemory config).client q).2 := by
  cases q with
  | check username p target option =>
    change Tracks superUser config R (s.check (inMemory config).client username p target option).2
    rw [Site.check]
    split
    · exact h.counted
    · split
      · exact h.counted
      · exact (h.checkPrivilege hrefl username p target option).counted
  | checkList username paths p option =>
    change Tracks superUser config R (s.checkList (inMemory config).client username paths p option).2
    rw [Site.checkList]
    split
    · exact h.counted
    · split
      · exact h.counted
      · exact (h.checkPaths hrefl username paths p option).counted
  | tree username p =>
    change Tracks superUser config R (s.tree (inMemory config).client username p).2
    rw [Site.tree]
    split
    · exact h
    · exact h.authorizedTree hrefl username p
  | login username password => exact h.login hrefl username password
  | role username rolename => exact h.checkRole hrefl username rolename

end Steps

/-- A change is followed, if the way in which users relate survives the removal of a role. -/
theorem Tracks.operate (h : Tracks superUser config R s) (o : Operation)
    (hdrop : ∀ rolename, o = .dropRole rolename → ∀ u v, R u v → R u (v.removeRole rolename).1) :
    Tracks superUser config R (s.operate (Authority.inMemory config).client o).2 := by
  rcases Authority.run_operate config o s.remote with
    ⟨fault, hrun⟩ | ⟨registry, hrun, heffect⟩
  · have hsite : (s.operate (Authority.inMemory config).client o).2 =
        ⟨(s.node.takeOperation o (.ok fault.status)).2, s.remote⟩ := by
      change (s.ask ((Authority.inMemory config).operate o) (·.takeOperation o ·)).2 = _
      rw [Site.ask, hrun]
    rw [hsite, Node.takeOperation]
    split
    · exact h.invalidate _ _
    · exact h
  · have hsite : (s.operate (Authority.inMemory config).client o).2 =
        ⟨(s.node.invalidate o.affected.1 o.affected.2).2, registry⟩ := by
      change (s.ask ((Authority.inMemory config).operate o) (·.takeOperation o ·)).2 = _
      rw [Site.ask, hrun]
      rfl
    rw [hsite]
    constructor
    · exact h.length
    · exact h.adminName
    · exact heffect.named h.named
    · exact heffect.unnamed h.length h.named h.unnamed
    -- Whoever is still cached is not the one that the operation is about.
    · intro username u hu
      obtain ⟨hname, hcached⟩ := getUser_invalidate hu
      obtain ⟨v, hv, hR⟩ := h.user hcached
      rcases heffect.user_frame h.named hname with hsame | ⟨rolename, hop, hstripped⟩
      · exact ⟨v, hsame.trans hv, hR⟩
      · refine ⟨_, ?_, hdrop rolename hop u v hR⟩
        rw [hstripped, hv]
        rfl
    · intro rolename r hr
      obtain ⟨hname, hcached⟩ := getRole_invalidate hr
      have hstored := h.role hcached
      -- A role without a name is not forgotten, but there is none.
      have hother : rolename ≠ o.affected.2 := by
        intro heq
        rw [heq, hname heq, h.unnamed] at hstored
        cases hstored
      change registry.roles.get? rolename = some r
      rw [heffect.role_frame h.named hother, hstored]

theorem Tracks.step (h : Tracks superUser config R s) (hrefl : ∀ u, R u u) (e : Event)
    (hdrop : ∀ rolename, e = .operate (.dropRole rolename) →
      ∀ u v, R u v → R u (v.removeRole rolename).1) :
    Tracks superUser config R (s.step (Authority.inMemory config).client e) := by
  cases e with
  | ask q => exact h.reply hrefl q
  | operate o =>
    refine h.operate o fun rolename hop => hdrop rolename ?_
    rw [hop]
  | query q =>
    obtain ⟨response, hrun⟩ := Authority.run_query config s.remote q
    have hquery : (s.query (Authority.inMemory config).client q).2 = s := by
      change (s.ask ((Authority.inMemory config).query q) fun n answer =>
        (Node.takeQuery answer, n)).2 = s
      rw [Site.ask, hrun]
    change Tracks superUser config R (s.query (Authority.inMemory config).client q).2
    rw [hquery]
    exact h
  | heartbeat now => exact h.forget rfl (fun _ _ hu => hu) fun _ _ hr => hr
  | invalidate username rolename => exact h.invalidate username rolename
  | acceptCache accept => exact h.forget rfl (fun _ _ hu => hu) fun _ _ hr => hr

theorem Tracks.run (h : Tracks superUser config R s) (hrefl : ∀ u, R u u) (events : List Event)
    (hdrop : ∀ rolename, .operate (.dropRole rolename) ∈ events →
      ∀ u v, R u v → R u (v.removeRole rolename).1) :
    Tracks superUser config R (s.run (Authority.inMemory config).client events) := by
  induction events generalizing s with
  | nil => exact h
  | cons e events ih =>
    refine ih (h.step hrefl e fun rolename he => ?_) fun rolename hmem => ?_
    · exact hdrop rolename (he ▸ List.mem_cons_self)
    · exact hdrop rolename (List.mem_cons_of_mem e hmem)

section Followers

variable (h : Follows config R s)

include h

theorem Follows.mono {S : User → User → Prop} (hRS : ∀ u v, R u v → S u v) : Follows config S s :=
  Tracks.mono h hRS

theorem Follows.forget (hadmin : n.adminName = s.node.adminName)
    (husers : ∀ username u, n.cachedUser? username = some u →
      s.node.cachedUser? username = some u)
    (hroles : ∀ rolename r, n.cache.roles.get? rolename = some r →
      s.node.cache.roles.get? rolename = some r) : Follows config R ⟨n, s.remote⟩ :=
  Tracks.forget h hadmin husers hroles

theorem Follows.fresh : Follows config R s.fresh := Tracks.fresh h

theorem Follows.run (hrefl : ∀ u, R u u) (events : List Event)
    (hdrop : ∀ rolename, .operate (.dropRole rolename) ∈ events →
      ∀ u v, R u v → R u (v.removeRole rolename).1) :
    Follows config R (s.run (Authority.inMemory config).client events) :=
  Tracks.run h hrefl events hdrop

end Followers

end Site

end Warden
