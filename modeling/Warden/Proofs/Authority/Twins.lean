import Warden.Proofs.Authority.Frame
import Warden.Proofs.Codec.Principal
import Warden.Proofs.Store.Mirror

namespace Warden

namespace Action

variable {σ τ α β : Type} {R : σ → τ → Prop} {P : α → Prop} {Q : β → Prop}

/-- From related states two steps come to the same outcome, and to related states. A result that
they come to has the property. -/
def Agree (R : σ → τ → Prop) (P : α → Prop) (x : Action σ α) (y : Action τ α) : Prop :=
  ∀ ⦃s t⦄, R s t → ∃ outcome s' t', x.run s = (outcome, s') ∧ y.run t = (outcome, t') ∧
    R s' t' ∧ ∀ a, outcome = .ok a → P a

abbrev Alike (R : σ → τ → Prop) (x : Action σ α) (y : Action τ α) : Prop :=
  Agree R (fun _ => True) x y

theorem agree_pure {a : α} (h : P a) : Agree R P (pure a) (pure a) := by
  intro s t hst
  refine ⟨.ok a, s, t, rfl, rfl, hst, ?_⟩
  rintro _ ⟨⟩
  exact h

theorem agree_fail (fault : Fault) : Agree R P (fail fault) (fail fault) :=
  fun s t hst => ⟨.error fault, s, t, rfl, rfl, hst, nofun⟩

theorem Agree.bind {x : Action σ α} {y : Action τ α} {f : α → Action σ β} {g : α → Action τ β}
    (h : Agree R P x y) (hnext : ∀ a, P a → Agree R Q (f a) (g a)) :
    Agree R Q (x >>= f) (y >>= g) := by
  intro s t hst
  obtain ⟨outcome, s', t', hx, hy, hst', hP⟩ := h hst
  cases outcome with
  | error fault =>
    exact ⟨.error fault, s', t', run_bind_error hx f, run_bind_error hy g, hst', nofun⟩
  | ok a =>
    obtain ⟨outcome, s'', t'', hf, hg, hst'', hQ⟩ := hnext a (hP a rfl) hst'
    exact ⟨outcome, s'', t'', (run_bind_ok hx f).trans hf, (run_bind_ok hy g).trans hg, hst'', hQ⟩

theorem Agree.map {x : Action σ α} {y : Action τ α} (h : Agree R P x y) {f : α → β}
    (hf : ∀ a, P a → Q (f a)) : Agree R Q (f <$> x) (f <$> y) :=
  h.bind fun a ha => agree_pure (hf a ha)

/-- Steps that always come to a result, made of the outcome of steps that agree. -/
theorem Agree.total {x : Action σ α} {y : Action τ α} (h : Agree R P x y)
    {f : Except Fault α → β} {x' : Action σ β} {y' : Action τ β}
    (hx : ∀ s, x'.run s = (.ok (f (x.run s).1), (x.run s).2))
    (hy : ∀ t, y'.run t = (.ok (f (y.run t).1), (y.run t).2)) :
    Alike R x' y' := by
  intro s t hst
  obtain ⟨outcome, s', t', hrun, hrun', hst', -⟩ := h hst
  refine ⟨.ok (f outcome), s', t', ?_, ?_, hst', fun _ _ => trivial⟩
  · rw [hx, hrun]
  · rw [hy, hrun']

end Action

open Warden.Action Folder

/-- A user whose name and roles are fit for files, and whose grants are read as they are written. -/
structure User.Storable (u : User) : Prop where
  fits : Fits u.name
  roles : ∀ rolename ∈ u.roles.keys, Fits rolename
  grants : u.grants.Lawful

structure Role.Storable (r : Role) : Prop where
  fits : Fits r.name
  grants : r.grants.Lawful

namespace User

variable {u : User} {username rolename : String}

theorem storable_new (hname : Fits username) (hash : String) : (User.new username hash).Storable where
  fits := hname
  roles := nofun
  grants := Grants.lawful_empty

theorem storable_openIdentity (hname : Fits username) : (openIdentity username).Storable where
  fits := hname
  roles := nofun
  grants := Grants.lawful_empty

theorem Storable.addRole (hu : u.Storable) (hrole : Fits rolename) :
    (u.addRole rolename).1.Storable where
  fits := hu.fits
  roles r hr := by
    rw [KeyMap.mem_keys_iff] at hr
    have hhas : (u.addRole rolename).1.hasRole r = true := hr
    rw [hasRole_addRole, Bool.or_eq_true, decide_eq_true_eq] at hhas
    rcases hhas with rfl | hhas
    · exact hrole
    · exact hu.roles r (KeyMap.mem_keys_iff.2 hhas)
  grants := hu.grants

theorem Storable.removeRole (hu : u.Storable) (rolename : String) :
    (u.removeRole rolename).1.Storable where
  fits := hu.fits
  roles r hr := by
    rw [KeyMap.mem_keys_iff] at hr
    have hhas : (u.removeRole rolename).1.hasRole r = true := hr
    rw [hasRole_removeRole, Bool.and_eq_true] at hhas
    exact hu.roles r (KeyMap.mem_keys_iff.2 hhas.2)
  grants := hu.grants

end User

theorem Role.storable_new {rolename : String} (hname : Fits rolename) :
    (Role.new rolename).Storable where
  fits := hname
  grants := Grants.lawful_empty

namespace Authority

variable {σ τ : Type} {R : σ → τ → Prop} {a : Authority σ} {b : Authority τ}

/-- Two authorities with the same settings, whose stores answer alike. The administrator is never
taken out of a store, so nothing is asked about that. -/
structure Twins (R : σ → τ → Prop) (a : Authority σ) (b : Authority τ) : Prop where
  adminName : b.adminName = a.adminName
  minNameLength : b.minNameLength = a.minNameLength
  minPasswordLength : b.minPasswordLength = a.minPasswordLength
  user? : ∀ {username}, Fits username →
    Agree R (∀ u ∈ ·, u.Storable) (a.user? username) (b.user? username)
  role? : ∀ {rolename}, Fits rolename →
    Agree R (∀ r ∈ ·, r.Storable) (a.role? rolename) (b.role? rolename)
  listUsers : Agree R (∀ username ∈ ·, Fits username) a.listUsers b.listUsers
  listRoles : Agree R (∀ rolename ∈ ·, Fits rolename) a.listRoles b.listRoles
  saveUser : ∀ {u}, u.Storable → Alike R (a.saveUser u) (b.saveUser u)
  saveRole : ∀ {r}, r.Storable → Alike R (a.saveRole r) (b.saveRole r)
  deleteUser : ∀ {username}, Fits username → username ≠ a.adminName → Alike R
    (.change (a.backend.users.delete username)) (.change (b.backend.users.delete username))
  deleteRole : ∀ {rolename}, Fits rolename → Alike R
    (.change (a.backend.roles.delete rolename)) (.change (b.backend.roles.delete rolename))

namespace Twins

variable {username rolename : String}

section Users

theorem checkName (h : Twins R a b) (kind : NameKind) (name : String) :
    Alike R (a.checkName kind name) (b.checkName kind name) := by
  have hflaw : b.nameFlaw? name = a.nameFlaw? name := by
    rw [nameFlaw?, nameFlaw?, h.minNameLength]
  rw [Authority.checkName, Authority.checkName, hflaw]
  cases a.nameFlaw? name with
  | none => exact agree_pure trivial
  | some reason => exact agree_fail _

theorem checkPassword (h : Twins R a b) (password : String) :
    Alike R (a.checkPassword password) (b.checkPassword password) := by
  have hflaw : b.passwordFlaw? password = a.passwordFlaw? password := by
    rw [passwordFlaw?, passwordFlaw?, h.minPasswordLength]
  rw [Authority.checkPassword, Authority.checkPassword, hflaw]
  cases a.passwordFlaw? password with
  | none => exact agree_pure trivial
  | some reason => exact agree_fail _

theorem addUser (h : Twins R a b) {u : User} (hu : u.Storable) :
    Alike R (a.addUser u) (b.addUser u) := by
  refine (h.user? hu.fits).bind fun stored _ => ?_
  cases stored with
  | some _ => exact agree_pure trivial
  | none => exact (h.saveUser hu).bind fun _ _ => agree_pure trivial

theorem initAdmin (h : Twins R a b) (hadmin : Fits a.adminName) (password : String) :
    Alike R (a.initAdmin password) (b.initAdmin password) := by
  rw [Authority.initAdmin, Authority.initAdmin, h.adminName]
  exact h.addUser (User.storable_new hadmin _)

theorem createUser (h : Twins R a b) (hname : Fits username) (password : String) :
    Alike R (a.createUser username password) (b.createUser username password) :=
  (h.checkName .user username).bind fun _ _ => (h.checkPassword password).bind fun _ _ =>
    h.addUser (User.storable_new hname _)

theorem createOpenIdUser (h : Twins R a b) (hname : Fits username) :
    Alike R (a.createOpenIdUser username) (b.createOpenIdUser username) :=
  (h.checkName .user username).bind fun _ _ => h.addUser (User.storable_openIdentity hname)

theorem dropUser (h : Twins R a b) (hname : Fits username) :
    Alike R (a.dropUser username) (b.dropUser username) := by
  rw [Authority.dropUser, Authority.dropUser, isAdmin, isAdmin, h.adminName]
  by_cases hadmin : a.adminName = username
  · simp only [hadmin, decide_true, if_true]
    exact agree_fail _
  · simp only [hadmin, decide_false]
    exact h.deleteUser hname (Ne.symm hadmin)

theorem updateUser (h : Twins R a b) (hname : Fits username)
    {mutate : Action User Bool} (hmutate : ∀ u : User, u.Storable → (mutate.run u).2.Storable) :
    Alike R (a.updateUser username mutate) (b.updateUser username mutate) := by
  refine (h.user? hname).bind fun stored hstored => ?_
  cases stored with
  | none => exact agree_fail _
  | some u =>
    have hu' := hmutate u (hstored u rfl)
    rcases hrun : mutate.run u with ⟨fault | changed, u'⟩
    · simp only [hrun]
      exact agree_fail fault
    · rw [hrun] at hu'
      simp only [hrun]
      cases changed with
      | false => exact agree_pure (a := false) trivial
      | true => exact (h.saveUser hu').bind fun _ _ => agree_pure trivial

theorem updatePassword (h : Twins R a b) (hname : Fits username) (password : String) :
    Alike R (a.updatePassword username password) (b.updatePassword username password) := by
  refine (h.checkPassword password).bind fun _ _ => (h.updateUser hname fun u hu => ?_).map
    fun _ _ => trivial
  exact ⟨hu.fits, hu.roles, hu.grants⟩

theorem changeUser (h : Twins R a b) (hname : Fits username) (c : Grants.Change) :
    Alike R (a.updateUser username (onUserGrants (Grants.change c)))
      (b.updateUser username (onUserGrants (Grants.change c))) :=
  h.updateUser hname fun _ hu => ⟨hu.fits, hu.roles, hu.grants.after c⟩

end Users

section Roles

theorem createRole (h : Twins R a b) (hname : Fits rolename) :
    Alike R (a.createRole rolename) (b.createRole rolename) := by
  refine (h.checkName .role rolename).bind fun _ _ => (h.role? hname).bind fun stored _ => ?_
  cases stored with
  | some _ => exact agree_pure trivial
  | none => exact (h.saveRole (Role.storable_new hname)).bind fun _ _ => agree_pure trivial

theorem updateRole (h : Twins R a b) (hname : Fits rolename)
    {mutate : Action Role Bool} (hmutate : ∀ r : Role, r.Storable → (mutate.run r).2.Storable) :
    Alike R (a.updateRole rolename mutate) (b.updateRole rolename mutate) := by
  refine (h.role? hname).bind fun stored hstored => ?_
  cases stored with
  | none => exact agree_fail _
  | some r =>
    have hr' := hmutate r (hstored r rfl)
    rcases hrun : mutate.run r with ⟨fault | changed, r'⟩
    · simp only [hrun]
      exact agree_fail fault
    · rw [hrun] at hr'
      simp only [hrun]
      cases changed with
      | false => exact agree_pure (a := false) trivial
      | true => exact (h.saveRole hr').bind fun _ _ => agree_pure trivial

theorem changeRole (h : Twins R a b) (hname : Fits rolename) (c : Grants.Change) :
    Alike R (a.updateRole rolename (onRoleGrants (Grants.change c)))
      (b.updateRole rolename (onRoleGrants (Grants.change c))) :=
  h.updateRole hname fun _ hr => ⟨hr.fits, hr.grants.after c⟩

theorem stripRole (h : Twins R a b) (rolename : String) {usernames : List String}
    (hnames : ∀ username ∈ usernames, Fits username) :
    Alike R (a.stripRole rolename usernames) (b.stripRole rolename usernames) := by
  induction usernames with
  | nil => exact agree_pure trivial
  | cons username usernames ih =>
    obtain ⟨hname, hnames⟩ := List.forall_mem_cons.1 hnames
    refine (h.user? hname).bind fun stored hstored => ?_
    cases stored with
    | none => exact ih hnames
    | some u =>
      have hu := (hstored u rfl).removeRole rolename
      rcases hchange : u.removeRole rolename with ⟨u', changed⟩
      rw [hchange] at hu
      dsimp only
      rw [hchange]
      cases changed with
      | false => exact ih hnames
      | true => exact (h.saveUser hu).bind fun _ _ => ih hnames

theorem dropRole (h : Twins R a b) (hname : Fits rolename) :
    Alike R (a.dropRole rolename) (b.dropRole rolename) := by
  refine (h.deleteRole hname).bind fun removed _ => ?_
  cases removed with
  | false => exact agree_pure trivial
  | true =>
    exact h.listUsers.bind fun usernames hnames =>
      (h.stripRole rolename hnames).bind fun _ _ => agree_pure trivial

theorem grantRole (h : Twins R a b) (hrole : Fits rolename) (hname : Fits username) :
    Alike R (a.grantRole rolename username) (b.grantRole rolename username) := by
  refine (h.role? hrole).bind fun stored _ => ?_
  cases stored with
  | none => exact agree_fail _
  | some r => exact h.updateUser hname fun u hu => hu.addRole hrole

theorem revokeRole (h : Twins R a b) (rolename : String) (hname : Fits username) :
    Alike R (a.revokeRole rolename username) (b.revokeRole rolename username) :=
  h.updateUser hname fun _ hu => hu.removeRole rolename

end Roles

section Answers

theorem isAdmin (h : Twins R a b) (username : String) : b.isAdmin username = a.isAdmin username := by
  rw [Authority.isAdmin, Authority.isAdmin, h.adminName]

theorem storedRoles (h : Twins R a b) {rolenames : List String}
    (hnames : ∀ rolename ∈ rolenames, Fits rolename) :
    Alike R (a.storedRoles rolenames) (b.storedRoles rolenames) := by
  induction rolenames with
  | nil => exact agree_pure trivial
  | cons rolename rolenames ih =>
    obtain ⟨hname, hnames⟩ := List.forall_mem_cons.1 hnames
    exact (h.role? hname).bind fun _ _ => (ih hnames).bind fun _ _ => agree_pure trivial

theorem snapshot (h : Twins R a b) (hname : Fits username) :
    Alike R (a.snapshot username) (b.snapshot username) := by
  refine (h.user? hname).bind fun stored hstored => ?_
  cases stored with
  | none => exact agree_pure trivial
  -- The roles were not asked for by name: that theirs are fit is known of the stored user.
  | some u => exact (h.storedRoles (hstored u rfl).roles).bind fun _ _ => agree_pure trivial

theorem checkPrivilege (h : Twins R a b) {r : PrivilegeRequest} (hname : Fits r.username) :
    Alike R (a.checkPrivilege r) (b.checkPrivilege r) := by
  have hpasses (u : User) (roles : List Role) :
      b.passes u roles r.username r.privilege r.grantOption =
        a.passes u roles r.username r.privilege r.grantOption := by
    funext target
    rw [passes, passes, h.isAdmin]
  rw [Authority.checkPrivilege, Authority.checkPrivilege]
  cases requestFlaw? r with
  | some status => exact agree_pure trivial
  | none =>
    refine (h.snapshot hname).bind fun stored _ => ?_
    cases stored with
    | none => exact agree_pure trivial
    | some found =>
      dsimp only
      rw [hpasses]
      exact agree_pure trivial

theorem login (h : Twins R a b) {r : LoginRequest} (hname : Fits r.username) :
    Alike R (a.login r) (b.login r) := by
  refine (h.snapshot hname).bind fun stored _ => ?_
  cases stored <;> exact agree_pure trivial

theorem checkMembership (h : Twins R a b) {r : MembershipRequest} (hname : Fits r.username) :
    Alike R (a.checkMembership r) (b.checkMembership r) := by
  refine (h.snapshot hname).bind fun stored _ => ?_
  cases stored <;> exact agree_pure trivial

theorem fetchTree (h : Twins R a b) {r : PrivilegeRequest} (hname : Fits r.username) :
    Alike R (a.fetchTree r) (b.fetchTree r) := by
  rw [Authority.fetchTree, Authority.fetchTree]
  cases r.privilege.check .path with
  | error fault => exact agree_pure trivial
  | ok =>
    refine (h.snapshot hname).bind fun stored _ => ?_
    cases stored with
    | none => exact agree_pure trivial
    | some found =>
      dsimp only
      rw [h.isAdmin]
      exact agree_pure trivial

theorem holders (h : Twins R a b) (rolename : String) {usernames : List String}
    (hnames : ∀ username ∈ usernames, Fits username) :
    Alike R (a.holders rolename usernames) (b.holders rolename usernames) := by
  induction usernames with
  | nil => exact agree_pure trivial
  | cons username usernames ih =>
    obtain ⟨hname, hnames⟩ := List.forall_mem_cons.1 hnames
    exact (h.user? hname).bind fun _ _ => (ih hnames).bind fun _ _ => agree_pure trivial

end Answers

end Twins

end Authority

def Operation.names : Operation → List String
  | .createUser username _ | .dropUser username | .updatePassword username _
  | .grantUser username .. | .revokeUser username .. | .revokeUserGrantOption username .. =>
    [username]
  | .createRole rolename | .dropRole rolename
  | .grantRole rolename .. | .revokeRole rolename .. | .revokeRoleGrantOption rolename .. =>
    [rolename]
  | .grantRoleToUser rolename username | .revokeRoleFromUser rolename username =>
    [rolename, username]

def Query.names : Query → List String
  | .listUsers | .listRoles => []
  | .listRolesOfUser username => [username]
  | .listUsersOfRole rolename => [rolename]

def Request.names : Request → List String
  | .checkPrivilege r | .fetchTree r => [r.username]
  | .login r => [r.username]
  | .checkMembership r => [r.username, r.rolename]
  | .operate o => o.names
  | .query q => q.names

inductive Method
  | initAdmin (password : String)
  | isAdmin (username : String)
  | user (username : String)
  | role (rolename : String)
  | listUsers
  | listRoles
  | createOpenIdUser (username : String)
  /-- The method that a change has for itself, which tells whether anything was changed. -/
  | attempt (o : Operation)
  | apply (o : Operation)
  | answer (q : Query)
  | request (r : Request)
  deriving DecidableEq

inductive Outcome
  | done
  | truth (b : Bool)
  | user (u : Option User)
  | role (r : Option Role)
  | names (names : List String)
  | permission (info : PermissionInfo)
  | tree (info : PatternTreeInfo)
  | status (status : Status)
  | response (response : QueryResponse)
  deriving DecidableEq

def Method.names : Method → List String
  | initAdmin _ | listUsers | listRoles => []
  | isAdmin username | user username | createOpenIdUser username => [username]
  | role rolename => [rolename]
  | attempt o | apply o => o.names
  | answer q => q.names
  | request r => r.names

def Operation.fault? : Operation → Option Fault
  | .createUser username _ => some (.userExists username)
  | .dropUser username => some (.noSuchUser username)
  | .createRole rolename => some (.roleExists rolename)
  | .dropRole rolename => some (.noSuchRole rolename)
  | _ => none

def Operation.returned : Operation → Bool → Outcome
  | .updatePassword .., _ => .done
  | _, changed => .truth changed

namespace Authority

variable {σ τ : Type}

/-- The method that a change has for itself; the answer tells whether anything was changed. -/
def attempt (a : Authority σ) : Operation → Action σ Bool
  | .createUser username password => a.createUser username password
  | .dropUser username => a.dropUser username
  | .updatePassword username password => do
    a.updatePassword username password
    return true
  | .createRole rolename => a.createRole rolename
  | .dropRole rolename => a.dropRole rolename
  | .grantRoleToUser rolename username => a.grantRole rolename username
  | .revokeRoleFromUser rolename username => a.revokeRole rolename username
  | .grantUser username p target option => a.grantToUser username p target option
  | .revokeUser username p target => a.revokeFromUser username p target
  | .revokeUserGrantOption username p target => a.revokeOptionFromUser username p target
  | .grantRole rolename p target option => a.grantToRole rolename p target option
  | .revokeRole rolename p target => a.revokeFromRole rolename p target
  | .revokeRoleGrantOption rolename p target => a.revokeOptionFromRole rolename p target

def respond (a : Authority σ) : Request → Action σ Outcome
  | .checkPrivilege r => .permission <$> a.checkPrivilege r
  | .login r => .permission <$> a.login r
  | .checkMembership r => .permission <$> a.checkMembership r
  | .fetchTree r => .tree <$> a.fetchTree r
  | .operate o => .status <$> a.operate o
  | .query q => .response <$> a.query q

def invoke (a : Authority σ) : Method → Action σ Outcome
  | .initAdmin password => .truth <$> a.initAdmin password
  | .isAdmin username => return .truth (a.isAdmin username)
  | .user username => .user <$> a.user? username
  | .role rolename => .role <$> a.role? rolename
  | .listUsers => .names <$> a.listUsers
  | .listRoles => .names <$> a.listRoles
  | .createOpenIdUser username => .truth <$> a.createOpenIdUser username
  | .attempt o => o.returned <$> a.attempt o
  | .apply o => (fun _ => .done) <$> a.apply o
  | .answer q => .names <$> a.answer q
  | .request r => a.respond r

theorem apply_eq (a : Authority σ) (o : Operation) : a.apply o =
    match o.fault? with
    | some fault => orFail (a.attempt o) fault
    | none => discard (a.attempt o) := by
  cases o with
  | updatePassword username password =>
    funext s
    change (a.updatePassword username password).run s =
      (discard (a.attempt (.updatePassword username password))).run s
    rw [run_discard, attempt, run_bind]
    rcases (a.updatePassword username password).run s with ⟨_ | _, _⟩ <;> rfl
  | _ => rfl

namespace Twins

variable {R : σ → τ → Prop} {a : Authority σ} {b : Authority τ}

theorem attempt (h : Twins R a b) (o : Operation) (hnames : ∀ name ∈ o.names, Fits name) :
    Alike R (a.attempt o) (b.attempt o) := by
  have hname : ∀ {name rest}, o.names = name :: rest → Fits name :=
    fun heq => hnames _ (heq ▸ List.mem_cons_self)
  cases o with
  | createUser username password => exact h.createUser (hname rfl) password
  | dropUser username => exact h.dropUser (hname rfl)
  | updatePassword username password =>
    exact (h.updatePassword (hname rfl) password).bind fun _ _ => agree_pure trivial
  | createRole rolename => exact h.createRole (hname rfl)
  | dropRole rolename => exact h.dropRole (hname rfl)
  | grantRoleToUser rolename username =>
    exact h.grantRole (hname rfl) (hnames username (.tail _ List.mem_cons_self))
  | revokeRoleFromUser rolename username =>
    exact h.revokeRole rolename (hnames username (.tail _ List.mem_cons_self))
  | grantUser => exact h.changeUser (hname rfl) (.grant ..)
  | revokeUser => exact h.changeUser (hname rfl) (.revoke ..)
  | revokeUserGrantOption => exact h.changeUser (hname rfl) (.revokeOption ..)
  | grantRole => exact h.changeRole (hname rfl) (.grant ..)
  | revokeRole => exact h.changeRole (hname rfl) (.revoke ..)
  | revokeRoleGrantOption => exact h.changeRole (hname rfl) (.revokeOption ..)

theorem apply (h : Twins R a b) (o : Operation) (hnames : ∀ name ∈ o.names, Fits name) :
    Alike R (a.apply o) (b.apply o) := by
  rw [apply_eq, apply_eq]
  cases o.fault? with
  | none => exact (h.attempt o hnames).map fun _ _ => trivial
  | some fault =>
    refine (h.attempt o hnames).bind fun done _ => ?_
    cases done with
    | false => exact agree_fail fault
    | true => exact agree_pure trivial

theorem answer (h : Twins R a b) (q : Query) (hnames : ∀ name ∈ q.names, Fits name) :
    Alike R (a.answer q) (b.answer q) := by
  cases q with
  | listUsers => exact h.listUsers.map fun _ _ => trivial
  | listRoles => exact h.listRoles.map fun _ _ => trivial
  | listRolesOfUser username =>
    refine (h.user? (hnames _ List.mem_cons_self)).bind fun stored _ => ?_
    cases stored with
    | none => exact agree_fail _
    | some u => exact agree_pure trivial
  | listUsersOfRole rolename =>
    refine (h.role? (hnames _ List.mem_cons_self)).bind fun stored _ => ?_
    cases stored with
    | none => exact agree_fail _
    | some r =>
      exact h.listUsers.bind fun usernames hfit =>
        (h.holders rolename hfit).bind fun _ _ => agree_pure trivial

theorem operate (h : Twins R a b) (o : Operation) (hnames : ∀ name ∈ o.names, Fits name) :
    Alike R (a.operate o) (b.operate o) :=
  (h.apply o hnames).total (run_operate_eq a o) (run_operate_eq b o)

theorem query (h : Twins R a b) (q : Query) (hnames : ∀ name ∈ q.names, Fits name) :
    Alike R (a.query q) (b.query q) :=
  (h.answer q hnames).total (run_query_eq a q) (run_query_eq b q)

theorem respond (h : Twins R a b) (r : Request) (hnames : ∀ name ∈ r.names, Fits name) :
    Alike R (a.respond r) (b.respond r) := by
  cases r with
  | checkPrivilege r =>
    exact (h.checkPrivilege (hnames _ List.mem_cons_self)).map fun _ _ => trivial
  | login r => exact (h.login (hnames _ List.mem_cons_self)).map fun _ _ => trivial
  | checkMembership r =>
    exact (h.checkMembership (hnames _ List.mem_cons_self)).map fun _ _ => trivial
  | fetchTree r => exact (h.fetchTree (hnames _ List.mem_cons_self)).map fun _ _ => trivial
  | operate o => exact (h.operate o hnames).map fun _ _ => trivial
  | query q => exact (h.query q hnames).map fun _ _ => trivial

/-- Whatever is asked of both, with names that are fit for files, they answer alike. -/
theorem invoke (h : Twins R a b) (hadmin : Fits a.adminName) (x : Method)
    (hnames : ∀ name ∈ x.names, Fits name) : Alike R (a.invoke x) (b.invoke x) := by
  cases x with
  | initAdmin password => exact (h.initAdmin hadmin password).map fun _ _ => trivial
  | isAdmin username =>
    rw [Authority.invoke, Authority.invoke, h.isAdmin]
    exact agree_pure trivial
  | user username => exact (h.user? (hnames _ List.mem_cons_self)).map fun _ _ => trivial
  | role rolename => exact (h.role? (hnames _ List.mem_cons_self)).map fun _ _ => trivial
  | listUsers => exact h.listUsers.map fun _ _ => trivial
  | listRoles => exact h.listRoles.map fun _ _ => trivial
  | createOpenIdUser username =>
    exact (h.createOpenIdUser (hnames _ List.mem_cons_self)).map fun _ _ => trivial
  | attempt o => exact (h.attempt o hnames).map fun _ _ => trivial
  | apply o => exact (h.apply o hnames).map fun _ _ => trivial
  | answer q => exact (h.answer q hnames).map fun _ _ => trivial
  | request r => exact h.respond r hnames

end Twins

end Authority

end Warden
