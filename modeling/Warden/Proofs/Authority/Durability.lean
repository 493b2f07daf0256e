import Warden.Proofs.Authority.Removal
import Warden.Proofs.Authority.Twins
import Warden.Proofs.Store.Stored

namespace Warden

open Warden.Action Folder

/-- The folders of a disk hold what a registry holds, and all of it can be read back. An authority
that is founded has its administrator. -/
structure Kept (config : Config) (founded : Prop) (d : Disk) (s : Registry) : Prop where
  users : Mirrors User.form ["users"] s.users d
  roles : Mirrors Role.form ["roles"] s.roles d
  user : ∀ {username u}, s.users.get? username = some u → u.Storable
  role : ∀ {rolename r}, s.roles.get? rolename = some r → r.Storable
  admin : founded → ∃ u, s.users.get? config.adminName = some u

namespace Registry

def withAdmin (s : Registry) (config : Config) : Registry :=
  if s.users.contains config.adminName then s
  else s.putUser (.new config.adminName (Password.stored config.adminName config.adminPassword))

variable {config : Config} {s : Registry}

theorem withAdmin_of_get? (h : ∃ u, s.users.get? config.adminName = some u) :
    s.withAdmin config = s := by
  obtain ⟨u, hu⟩ := h
  exact if_pos (KeyMap.contains_of_get? hu)

theorem getAdmin_withAdmin (s : Registry) (config : Config) :
    ∃ u, (s.withAdmin config).users.get? config.adminName = some u := by
  rw [withAdmin]
  split
  · rename_i hcontains
    exact Option.isSome_iff_exists.1 hcontains
  · rw [getUser_putUser]
    exact ⟨_, if_pos rfl⟩

end Registry

namespace Kept

variable {config : Config} {founded : Prop} {d d' : Disk} {s : Registry} {username rolename : String}

theorem of_empty (husers : d.find? ["users"] = some (.folder []))
    (hroles : d.find? ["roles"] = some (.folder [])) : Kept config False d .empty where
  users := mirrors_empty husers
  roles := mirrors_empty hroles
  user h := by simp [Registry.empty] at h
  role h := by simp [Registry.empty] at h
  admin h := h.elim

theorem of_same (h : Kept config founded d s) (husers : d'.find? ["users"] = d.find? ["users"])
    (hroles : d'.find? ["roles"] = d.find? ["roles"]) : Kept config founded d' s where
  users := h.users.of_same husers
  roles := h.roles.of_same hroles
  user := h.user
  role := h.role
  admin := h.admin

theorem saveUser (h : Kept config founded d s) {u : User} (hu : u.Storable) :
    ∃ d', Folder.save User.form ["users"] u d = .ok d' ∧ Kept config founded d' (s.putUser u) := by
  obtain ⟨d', hsave, husers, hagree⟩ := h.users.save (a := u) hu.fits
  refine ⟨d', hsave, husers, h.roles.of_same (hagree.beside (by decide)), ?_, h.role, ?_⟩
  · intro username v hv
    rw [Registry.getUser_putUser] at hv
    split at hv
    · cases hv
      exact hu
    · exact h.user hv
  · intro hfounded
    rw [Registry.getUser_putUser]
    split
    · exact ⟨u, rfl⟩
    · exact h.admin hfounded

theorem saveRole (h : Kept config founded d s) {r : Role} (hr : r.Storable) :
    ∃ d', Folder.save Role.form ["roles"] r d = .ok d' ∧ Kept config founded d' (s.putRole r) := by
  obtain ⟨d', hsave, hroles, hagree⟩ := h.roles.save (a := r) hr.fits
  refine ⟨d', hsave, h.users.of_same (hagree.beside (by decide)), hroles, h.user, ?_, h.admin⟩
  intro rolename v hv
  rw [Registry.getRole_putRole] at hv
  split at hv
  · cases hv
    exact hr
  · exact h.role hv

theorem deleteUser (h : Kept config founded d s) (hname : Fits username)
    (hadmin : username ≠ config.adminName) :
    ∃ d', Folder.delete ["users"] username d = .ok (s.users.contains username, d') ∧
      Kept config founded d' { s with users := s.users.erase username } := by
  obtain ⟨d', hdelete, husers, hagree⟩ := h.users.delete hname
  refine ⟨d', hdelete, husers, h.roles.of_same (hagree.beside (by decide)), ?_, h.role, ?_⟩
  · intro other u hu
    rw [KeyMap.get?_erase] at hu
    split at hu
    · cases hu
    · exact h.user hu
  · intro hfounded
    rw [KeyMap.get?_erase, if_neg (Ne.symm hadmin)]
    exact h.admin hfounded

theorem deleteRole (h : Kept config founded d s) (hname : Fits rolename) :
    ∃ d', Folder.delete ["roles"] rolename d = .ok (s.roles.contains rolename, d') ∧
      Kept config founded d' { s with roles := s.roles.erase rolename } := by
  obtain ⟨d', hdelete, hroles, hagree⟩ := h.roles.delete hname
  refine ⟨d', hdelete, h.users.of_same (hagree.beside (by decide)), hroles, h.user, ?_, h.admin⟩
  intro other r hr
  rw [KeyMap.get?_erase] at hr
  split at hr
  · cases hr
  · exact h.role hr

end Kept

namespace Authority

variable {config : Config} {d : Disk} {s : Registry}

theorem twins (config : Config) (founded : Prop) :
    Twins (Kept config founded) (onDisk config) (inMemory config) where
  adminName := rfl
  minNameLength := rfl
  minPasswordLength := rfl
  user? hname := by
    intro d s h
    have hload := h.users.load hname fun u hu => User.reads (h.user hu).grants
    refine ⟨_, d, s, Prod.ext hload rfl, rfl, h, ?_⟩
    rintro _ ⟨⟩ u hu
    exact h.user hu
  role? hname := by
    intro d s h
    have hload := h.roles.load hname fun r hr => Role.reads (h.role hr).grants
    refine ⟨_, d, s, Prod.ext hload rfl, rfl, h, ?_⟩
    rintro _ ⟨⟩ r hr
    exact h.role hr
  listUsers := by
    intro d s h
    refine ⟨_, d, s, Prod.ext h.users.names rfl, rfl, h, ?_⟩
    rintro _ ⟨⟩ username hmem
    obtain ⟨u, hu⟩ := Option.isSome_iff_exists.1 (KeyMap.mem_keys_iff.1 hmem)
    exact h.users.fits hu
  listRoles := by
    intro d s h
    refine ⟨_, d, s, Prod.ext h.roles.names rfl, rfl, h, ?_⟩
    rintro _ ⟨⟩ rolename hmem
    obtain ⟨r, hr⟩ := Option.isSome_iff_exists.1 (KeyMap.mem_keys_iff.1 hmem)
    exact h.roles.fits hr
  saveUser hu := by
    intro d s h
    obtain ⟨d', hsave, hkept⟩ := h.saveUser hu
    refine ⟨_, d', _, ?_, rfl, hkept, fun _ _ => trivial⟩
    rw [run_saveUser_onDisk, hsave]
  saveRole hr := by
    intro d s h
    obtain ⟨d', hsave, hkept⟩ := h.saveRole hr
    refine ⟨_, d', _, ?_, rfl, hkept, fun _ _ => trivial⟩
    exact run_change_ok (congrArg (Except.map ((), ·)) hsave)
  deleteUser hname hadmin := by
    intro d s h
    obtain ⟨d', hdelete, hkept⟩ := h.deleteUser hname hadmin
    exact ⟨_, d', _, run_change_ok hdelete, rfl, hkept, fun _ _ => trivial⟩
  deleteRole hname := by
    intro d s h
    obtain ⟨d', hdelete, hkept⟩ := h.deleteRole hname
    exact ⟨_, d', _, run_change_ok hdelete, rfl, hkept, fun _ _ => trivial⟩

theorem run_initAdmin_inMemory :
    ((inMemory config).initAdmin config.adminPassword).run s =
      (.ok !s.users.contains config.adminName, s.withAdmin config) := by
  rw [initAdmin, run_addUser, Registry.withAdmin]
  change (if s.users.contains config.adminName then _ else _) = _
  cases s.users.contains config.adminName <;> rfl

section Opening

/-- A folder that is there is left as it is, and one that is missing is made. -/
theorem run_openAt {name : String} {siblings entries : List (String × Disk)}
    (h : (Entries.find? name siblings).getD .empty = .folder entries) :
    (openAt [name]).run (.folder siblings) =
      (.ok (), .folder (Entries.insert name (.folder entries) siblings)) := by
  have hmake : (Disk.folder siblings).makeFolders? [name] =
      some (.folder (Entries.insert name (.folder entries) siblings)) := by
    rw [Disk.makeFolders?, h]
    rfl
  exact run_change_ok (by rw [hmake]; rfl)

/-- Opening comes down to its start on a disk that has both folders. -/
theorem run_openDisk (config : Config) (siblings users roles : List (String × Disk))
    (husers : (Entries.find? "users" siblings).getD .empty = .folder users)
    (hroles : (Entries.find? "roles" siblings).getD .empty = .folder roles) :
    ∃ d, d.find? ["users"] = some (.folder users) ∧ d.find? ["roles"] = some (.folder roles) ∧
      (openDisk config).run (.folder siblings) = (start config Disk.backend).run d := by
  have hroles' : (Entries.find? "roles" (Entries.insert "users" (.folder users) siblings)).getD
      .empty = .folder roles := by
    rw [Entries.find?_insert, if_neg (by decide)]
    exact hroles
  refine ⟨.folder (Entries.insert "roles" (.folder roles)
    (Entries.insert "users" (.folder users) siblings)), ?_, ?_, ?_⟩
  · rw [Disk.find?_one, Disk.entries, Entries.find?_insert, if_neg (by decide),
      Entries.find?_insert, if_pos rfl]
  · rw [Disk.find?_one, Disk.entries, Entries.find?_insert, if_pos rfl]
  · rw [openDisk, run_bind_ok (run_openAt husers), run_bind_ok (run_openAt hroles')]

/-- Starting puts the administrator in place, on the disk as in memory. -/
theorem run_start_onDisk (hvalid : config.validate = .ok ()) (hadmin : Fits config.adminName)
    (h : Kept config False d s) :
    ∃ d', (start config Disk.backend).run d = (.ok (onDisk config), d') ∧
      Kept config True d' (s.withAdmin config) := by
  have hstart : start config Disk.backend = (do
      Action.ofExcept config.validate
      discard ((onDisk config).initAdmin config.adminPassword)
      return onDisk config) := rfl
  obtain ⟨outcome, d', s', hdisk, hmemory, hkept, -⟩ :=
    (twins config False).initAdmin hadmin config.adminPassword h
  rw [run_initAdmin_inMemory, Prod.mk.injEq] at hmemory
  obtain ⟨rfl, rfl⟩ := hmemory
  refine ⟨d', ?_, { hkept with admin := fun _ => s.getAdmin_withAdmin config }⟩
  rw [hstart, hvalid, run_bind_ok (run_ofExcept (.ok ()) d)]
  rw [run_bind_ok (a := ()) (by rw [run_discard, hdisk])]
  rfl

/-- The first opening, on a disk with nothing on it. -/
theorem run_openDisk_empty (hvalid : config.validate = .ok ()) (hadmin : Fits config.adminName) :
    ∃ d, (openDisk config).run .empty = (.ok (onDisk config), d) ∧
      Kept config True d (.founded config) := by
  obtain ⟨d, husers, hroles, hopen⟩ := run_openDisk config [] [] [] rfl rfl
  obtain ⟨d', hstart, hkept⟩ := run_start_onDisk hvalid hadmin (Kept.of_empty husers hroles)
  exact ⟨d', hopen.trans hstart, hkept⟩

/-- Any later opening finds everything as it was. -/
theorem run_openDisk_kept (hvalid : config.validate = .ok ()) (hadmin : Fits config.adminName)
    (h : Kept config True d s) :
    ∃ d', (openDisk config).run d = (.ok (onDisk config), d') ∧ Kept config True d' s := by
  obtain ⟨users, husers, -⟩ := h.users.folder
  obtain ⟨roles, hroles, -⟩ := h.roles.folder
  cases d with
  | file content => cases husers
  | folder siblings =>
    have husers' : Entries.find? "users" siblings = some (.folder users) :=
      (Disk.find?_one "users" (.folder siblings)).symm.trans husers
    have hroles' : Entries.find? "roles" siblings = some (.folder roles) :=
      (Disk.find?_one "roles" (.folder siblings)).symm.trans hroles
    obtain ⟨d, hfound, hfound', hopen⟩ := run_openDisk config siblings users roles
      (by rw [husers', Option.getD_some]) (by rw [hroles', Option.getD_some])
    -- The administrator is left out here, since putting it in place is what starting is about.
    have hfolders : Kept config False d s :=
      { h.of_same (hfound.trans husers.symm) (hfound'.trans hroles.symm) with admin := False.elim }
    obtain ⟨d', hstart, hkept⟩ := run_start_onDisk hvalid hadmin hfolders
    rw [Registry.withAdmin_of_get? (h.admin trivial)] at hkept
    exact ⟨d', hopen.trans hstart, hkept⟩

end Opening

/-- What happens to an authority: a call, or that it is dropped and opened again. -/
inductive Step
  | call (x : Method)
  | reopen
  deriving DecidableEq

def outcomes {σ : Type} (a : Authority σ) (s : σ) : List Method → List (Except Fault Outcome)
  | [] => []
  | x :: xs => ((a.invoke x).run s).1 :: a.outcomes ((a.invoke x).run s).2 xs

/-- The outcomes of the calls among some steps. What is opened again takes the place of what was
dropped; that it cannot be opened ends everything. -/
def session {σ : Type} (reopen : Action σ (Authority σ)) (a : Authority σ) (s : σ) :
    List Step → Except Fault (List (Except Fault Outcome))
  | [] => .ok []
  | .call x :: steps => do
    return ((a.invoke x).run s).1 :: (← session reopen a ((a.invoke x).run s).2 steps)
  | .reopen :: steps =>
    match reopen.run s with
    | (.ok a, s) => session reopen a s steps
    | (.error fault, _) => .error fault

def calls (steps : List Step) : List Method :=
  steps.filterMap fun
    | .call x => some x
    | .reopen => none

theorem session_onDisk (hvalid : config.validate = .ok ()) (hadmin : Fits config.adminName)
    (h : Kept config True d s) (steps : List Step)
    (hnames : ∀ x ∈ calls steps, ∀ name ∈ x.names, Fits name) :
    session (openDisk config) (onDisk config) d steps =
      .ok ((inMemory config).outcomes s (calls steps)) := by
  -- Both sides move on together with a call, and the disk alone when it is opened again.
  induction steps generalizing d s with
  | nil => rfl
  | cons step steps ih =>
    cases step with
    | call x =>
      have hcalls : calls (.call x :: steps) = x :: calls steps := rfl
      rw [hcalls] at hnames ⊢
      obtain ⟨hname, hnames⟩ := List.forall_mem_cons.1 hnames
      obtain ⟨outcome, d', s', hdisk, hmemory, hkept, -⟩ :=
        (twins config True).invoke hadmin x hname h
      rw [session, outcomes, hdisk, hmemory, ih hkept hnames]
      rfl
    | reopen =>
      have hcalls : calls (.reopen :: steps) = calls steps := rfl
      rw [hcalls] at hnames ⊢
      obtain ⟨d', hopen, hkept⟩ := run_openDisk_kept hvalid hadmin h
      rw [session, hopen]
      exact ih hkept hnames

/-- An authority that is opened on an empty disk answers every call as the one in memory does that
has the same settings, however often it is dropped and opened again in between. -/
theorem disk_answers_as_memory {config : Config} (hvalid : config.validate = .ok ())
    (hadmin : Fits config.adminName) (steps : List Step)
    (hnames : ∀ x ∈ calls steps, ∀ name ∈ x.names, Fits name) :
    ∃ a registry b disk, (openMemory config).run .empty = (.ok a, registry) ∧
      (openDisk config).run .empty = (.ok b, disk) ∧
      session (openDisk config) b disk steps = .ok (a.outcomes registry (calls steps)) := by
  obtain ⟨d, hopen, hkept⟩ := run_openDisk_empty hvalid hadmin
  refine ⟨inMemory config, .founded config, onDisk config, d, ?_, hopen, ?_⟩
  · rw [run_openMemory, hvalid]
  · exact session_onDisk hvalid hadmin hkept steps hnames

/-- What was granted before the authority was dropped is still there when it is opened again. -/
theorem disk_answers_reopened :
    let below := (Pattern.parse "root.sg.**").toOption.getD .everything
    let steps : List Step := [.call (.attempt (.createUser "alice" "secret")),
      .call (.apply (.createRole "reader")),
      .call (.apply (.grantRole "reader" .readData (.path below) false)), .reopen,
      .call (.request (.operate (.grantRoleToUser "reader" "alice"))), .reopen,
      .call (.answer (.listUsersOfRole "reader"))]
    ∃ b disk results, (openDisk .standard).run .empty = (.ok b, disk) ∧
      session (openDisk .standard) b disk steps = .ok results ∧
      results.getLast? = some (.ok (.names ["alice"])) := by
  intro below steps
  obtain ⟨a, registry, b, disk, hmemory, hdisk, hsession⟩ :=
    @disk_answers_as_memory .standard rfl (by decide) steps (by decide +kernel)
  obtain ⟨rfl, rfl⟩ := of_openMemory hmemory
  exact ⟨b, disk, _, hdisk, hsession, by decide +kernel⟩

end Authority

end Warden
