import Warden.Proofs.Authority.Frame

namespace Warden

namespace Sha256

theorem digitChar_injective {m n : Nat} (hm : m < 16) (hn : n < 16)
    (h : m.digitChar = n.digitChar) : m = n := by
  have hdigits : ∀ i j : Fin 16, Nat.digitChar i = Nat.digitChar j → i = j := by decide
  exact congrArg Fin.val (hdigits ⟨m, hm⟩ ⟨n, hn⟩ h)

theorem hexByte_injective {a b : UInt8} (h : hexByte a = hexByte b) : a = b := by
  have ha := a.toNat_lt
  have hb := b.toNat_lt
  simp only [hexByte, List.cons.injEq, and_true] at h
  have hhigh : a.toNat / 16 = b.toNat / 16 := digitChar_injective (by omega) (by omega) h.1
  have hlow : a.toNat % 16 = b.toNat % 16 := digitChar_injective (by omega) (by omega) h.2
  exact UInt8.toNat_inj.1 (by omega)

/-- Two digits stand for each byte. -/
theorem hex_injective {xs ys : List UInt8} (h : hex xs = hex ys) : xs = ys := by
  replace h : xs.flatMap hexByte = ys.flatMap hexByte := String.ofList_injective h
  induction xs generalizing ys with
  | nil =>
    cases ys with
    | nil => rfl
    | cons y ys => cases h
  | cons x xs ih =>
    cases ys with
    | nil => cases h
    | cons y ys =>
      rw [List.flatMap_cons, List.flatMap_cons] at h
      obtain ⟨hbyte, hrest⟩ := List.append_inj h rfl
      rw [hexByte_injective hbyte, ih hrest]

end Sha256

namespace Password

theorem isPrefixOf_stored (username password : String) :
    marker.toList.isPrefixOf (stored username password).toList = true := by
  rw [stored, String.toList_append]
  exact List.isPrefixOf_iff_prefix.2 (List.prefix_append _ _)

/-- A password opens an account that was given another one only if the digests fall together. -/
theorem matches?_stored {username p q : String} :
    matches? username p (stored username q) = true ↔
      Sha256.digest (Text.bytes p ++ Text.bytes username) =
        Sha256.digest (Text.bytes q ++ Text.bytes username) := by
  rw [matches?, if_pos (isPrefixOf_stored username q), decide_eq_true_iff]
  constructor
  · intro h
    rw [stored, stored] at h
    have hlist := congrArg String.toList h
    rw [String.toList_append, String.toList_append] at hlist
    exact Sha256.hex_injective (String.toList_injective (List.append_cancel_left hlist))
  · intro h
    rw [stored, stored, h]

end Password

/-- The passwords that users were given last, by the names of the users. -/
abbrev Passwords := KeyMap String

namespace Passwords

def founded (config : Config) : Passwords :=
  KeyMap.empty.insert config.adminName config.adminPassword

def after (known : Passwords) : Operation → Passwords
  | .createUser username password | .updatePassword username password =>
    known.insert username password
  | .dropUser username => known.erase username
  | _ => known

end Passwords

namespace Registry

variable {s : Registry} {known : Passwords}

/-- How a user logs in: whether elsewhere, and else by which stored form. -/
def credential? (s : Registry) (username : String) : Option (Bool × Option String) :=
  (s.users.get? username).map fun u => (u.openId, u.passwordHash)

/-- Exactly the users with a known password are stored, and with its stored form. -/
def Records (known : Passwords) (s : Registry) : Prop :=
  ∀ username, s.credential? username =
    (known.get? username).map fun q => (false, some (Password.stored username q))

theorem credential?_putUser (s : Registry) (u : User) (username : String) :
    (s.putUser u).credential? username =
      if username = u.name then some (u.openId, u.passwordHash) else s.credential? username := by
  rw [credential?, credential?, getUser_putUser]
  split <;> rfl

theorem records_founded (config : Config) : (founded config).Records (.founded config) := by
  intro username
  rw [founded, credential?_putUser, Passwords.founded, KeyMap.get?_insert]
  by_cases hname : username = config.adminName
  · rw [if_pos hname, if_pos (show username = (User.new config.adminName _).name from hname), hname]
    rfl
  · rw [if_neg hname, if_neg (show username ≠ (User.new config.adminName _).name from hname)]
    rfl

/-- A user is given a password. -/
theorem Records.putUser (h : s.Records known) {u : User} {username password : String}
    (hname : u.name = username) (hopen : u.openId = false)
    (hhash : u.passwordHash = some (Password.stored username password)) :
    (s.putUser u).Records (known.insert username password) := by
  intro name
  rw [credential?_putUser, KeyMap.get?_insert, hname]
  split
  · rename_i heq
    rw [hopen, hhash, heq]
    rfl
  · exact h name

theorem Records.of_same {s' : Registry} (h : s.Records known)
    (hsame : ∀ username, s'.credential? username = s.credential? username) : s'.Records known :=
  fun username => (hsame username).trans (h username)

/-- A user is changed in another way. -/
theorem Records.keepUser (h : s.Records known) (hn : s.Named) {change : User × Bool}
    {username : String} {u : User} (hu : s.users.get? username = some u)
    (hname : change.1.name = u.name) (hopen : change.1.openId = u.openId)
    (hhash : change.1.passwordHash = u.passwordHash) : (s.keepUser change).Records known := by
  refine h.of_same fun name => ?_
  rw [Registry.keepUser]
  split
  · rw [credential?_putUser, hname, hn.user hu]
    split
    · rename_i heq
      rw [hopen, hhash, heq, credential?, hu]
      rfl
    · rfl
  · rfl

theorem Records.keepRole (h : s.Records known) (change : Role × Bool) :
    (s.keepRole change).Records known :=
  h.of_same fun name => by rw [credential?, credential?, users_keepRole]

theorem Records.dropUser (h : s.Records known) (username : String) :
    (s.dropUser username).Records (known.erase username) := by
  intro name
  rw [credential?, getUser_dropUser, KeyMap.get?_erase]
  split
  · rfl
  · exact h name

theorem Records.dropRole (h : s.Records known) (hn : s.Named) (rolename : String) :
    (s.dropRole rolename).Records known := by
  refine h.of_same fun name => ?_
  rw [credential?, credential?, getUser_dropRole hn, Option.map_map]
  rfl

/-- A stored user has a known password, and a user with a known password is stored. -/
theorem Records.accepts_iff (h : s.Records known) {username password : String} :
    (s.users.get? username).any (·.accepts username password) = true ↔
      ∃ q, known.get? username = some q ∧
        Sha256.digest (Text.bytes password ++ Text.bytes username) =
          Sha256.digest (Text.bytes q ++ Text.bytes username) := by
  have hrecord := h username
  rw [credential?] at hrecord
  cases hu : s.users.get? username with
  | none =>
    rw [hu] at hrecord
    cases hq : known.get? username with
    | none => simp
    | some q => rw [hq] at hrecord; cases hrecord
  | some u =>
    rw [hu] at hrecord
    cases hq : known.get? username with
    | none => rw [hq] at hrecord; cases hrecord
    | some q =>
      rw [hq] at hrecord
      obtain ⟨hopen, hhash⟩ := Prod.mk.inj (Option.some.inj hrecord)
      rw [Option.any_some, User.accepts, hopen, hhash, Bool.false_or, Option.any_some,
        Password.matches?_stored]
      simp

theorem Records.stored_iff (h : s.Records known) {username : String} :
    (∃ u, s.users.get? username = some u) ↔ ∃ q, known.get? username = some q := by
  have hrecord := h username
  rw [credential?] at hrecord
  cases hu : s.users.get? username <;> cases hq : known.get? username <;> simp_all

end Registry

namespace Authority

open Warden.Action Registry

variable {config : Config} {s s' : Registry} {o : Operation} {fault : Fault} {known : Passwords}

theorem isSuccess_of_changeUser {username : String} {mutate : Action User Bool}
    (hmutate : ∀ u u' fault, mutate.run u = (.error fault, u') →
      fault.status.isSuccess = false)
    (h : (discard ((inMemory config).updateUser username mutate)).run s = (.error fault, s')) :
    fault.status.isSuccess = false := by
  rw [run_discard, run_updateUser] at h
  cases hu : s.users.get? username with
  | none =>
    rw [hu] at h
    cases h
    rfl
  | some u =>
    rw [hu] at h
    dsimp only at h
    rcases hrun : mutate.run u with ⟨fault' | changed, u'⟩
    · rw [hrun] at h
      cases h
      exact hmutate u u' _ hrun
    · rw [hrun] at h
      cases h

theorem isSuccess_of_changeRole {rolename : String} {mutate : Action Role Bool}
    (hmutate : ∀ r r' fault, mutate.run r = (.error fault, r') →
      fault.status.isSuccess = false)
    (h : (discard ((inMemory config).updateRole rolename mutate)).run s = (.error fault, s')) :
    fault.status.isSuccess = false := by
  rw [run_discard, run_updateRole] at h
  cases hr : s.roles.get? rolename with
  | none =>
    rw [hr] at h
    cases h
    rfl
  | some r =>
    rw [hr] at h
    dsimp only at h
    rcases hrun : mutate.run r with ⟨fault' | changed, r'⟩
    · rw [hrun] at h
      cases h
      exact hmutate r r' _ hrun
    · rw [hrun] at h
      cases h

theorem isSuccess_of_changeUserGrants {username : String} {x : Action Grants Bool}
    (hx : ∀ g g' fault, x.run g = (.error fault, g') → fault.status.isSuccess = false)
    (h : (discard ((inMemory config).updateUser username (onUserGrants x))).run s = (.error fault, s')) :
    fault.status.isSuccess = false := by
  refine isSuccess_of_changeUser (fun u u' fault hrun => ?_) h
  exact hx u.grants _ fault (Prod.ext (Prod.mk.inj hrun).1 rfl)

theorem isSuccess_of_changeRoleGrants {rolename : String} {x : Action Grants Bool}
    (hx : ∀ g g' fault, x.run g = (.error fault, g') → fault.status.isSuccess = false)
    (h : (discard ((inMemory config).updateRole rolename (onRoleGrants x))).run s = (.error fault, s')) :
    fault.status.isSuccess = false := by
  refine isSuccess_of_changeRole (fun r r' fault hrun => ?_) h
  exact hx r.grants _ fault (Prod.ext (Prod.mk.inj hrun).1 rfl)

/-- The status of a fault is no success. -/
theorem isSuccess_of_apply (h : ((inMemory config).apply o).run s = (.error fault, s')) :
    fault.status.isSuccess = false := by
  cases o with
  | createUser username password =>
    rw [apply, run_orFail, run_createUser] at h
    cases hname : (inMemory config).nameFlaw? username <;>
      cases hpassword : (inMemory config).passwordFlaw? password <;>
        cases hnew : s.users.contains username <;>
          simp only [hname, hpassword, hnew] at h <;> cases h <;> rfl
  | dropUser username =>
    rw [apply, run_orFail, run_dropUser] at h
    by_cases hadmin : config.adminName = username
    · rw [if_pos hadmin] at h
      cases h
      rfl
    · rw [if_neg hadmin] at h
      cases hu : s.users.contains username <;> simp only [hu] at h <;> cases h
      rfl
  | updatePassword username password =>
    rw [apply, updatePassword, run_bind, run_checkPassword] at h
    cases hpassword : (inMemory config).passwordFlaw? password with
    | some reason =>
      rw [hpassword] at h
      cases h
      rfl
    | none =>
      rw [hpassword] at h
      exact isSuccess_of_changeUser (fun _ _ _ hrun => by cases hrun) h
  | createRole rolename =>
    rw [apply, run_orFail, run_createRole] at h
    cases hname : (inMemory config).nameFlaw? rolename <;>
      cases hnew : s.roles.get? rolename <;> simp only [hname, hnew] at h <;> cases h <;> rfl
  | dropRole rolename =>
    rw [apply, run_orFail, run_dropRole] at h
    cases hr : s.roles.contains rolename <;> simp only [hr] at h <;> cases h
    rfl
  | grantRoleToUser rolename username =>
    rw [apply, run_discard, run_grantRole] at h
    cases hr : s.roles.get? rolename with
    | none =>
      rw [hr] at h
      cases h
      rfl
    | some r =>
      rw [hr] at h
      rw [← run_discard] at h
      exact isSuccess_of_changeUser (fun _ _ _ hrun => by cases hrun) h
  | revokeRoleFromUser rolename username =>
    exact isSuccess_of_changeUser (fun _ _ _ hrun => by cases hrun) h
  | grantUser username p target option =>
    exact isSuccess_of_changeUserGrants
      (fun _ _ _ hrun => Privilege.isSuccess_of_check (Grants.of_grant_error hrun).1) h
  | revokeUser username p target =>
    exact isSuccess_of_changeUserGrants
      (fun _ _ _ hrun => Privilege.isSuccess_of_check (Grants.of_revoke_error hrun).1) h
  | revokeUserGrantOption username p target =>
    exact isSuccess_of_changeUserGrants
      (fun _ _ _ hrun => Privilege.isSuccess_of_check (Grants.of_revokeOption_error hrun).1) h
  | grantRole rolename p target option =>
    exact isSuccess_of_changeRoleGrants
      (fun _ _ _ hrun => Privilege.isSuccess_of_check (Grants.of_grant_error hrun).1) h
  | revokeRole rolename p target =>
    exact isSuccess_of_changeRoleGrants
      (fun _ _ _ hrun => Privilege.isSuccess_of_check (Grants.of_revoke_error hrun).1) h
  | revokeRoleGrantOption rolename p target =>
    exact isSuccess_of_changeRoleGrants
      (fun _ _ _ hrun => Privilege.isSuccess_of_check (Grants.of_revokeOption_error hrun).1) h

/-- A user has a new password only by an operation that gives it one. -/
theorem Effect.records (h : Effect config s o s') (hn : s.Named) (hs : s.Records known) :
    s'.Records (known.after o) := by
  cases h with
  | createUser => exact hs.putUser rfl rfl rfl
  | dropUser => exact hs.dropUser _
  | @updatePassword username password u hpassword hu =>
    have hopen : u.openId = false := by
      obtain ⟨q, hq⟩ := hs.stored_iff.1 ⟨u, hu⟩
      have hrecord := hs username
      rw [credential?, hu, hq] at hrecord
      exact (Prod.mk.inj (Option.some.inj hrecord)).1
    exact hs.putUser (show u.name = username from hn.user hu) hopen rfl
  | createRole => exact hs
  | dropRole => exact hs.dropRole hn _
  | grantRoleToUser _ hu => exact hs.keepUser hn hu rfl rfl rfl
  | revokeRoleFromUser hu => exact hs.keepUser hn hu rfl rfl rfl
  | grantUser hu => exact hs.keepUser hn hu rfl rfl rfl
  | revokeUser hu => exact hs.keepUser hn hu rfl rfl rfl
  | revokeUserGrantOption hu => exact hs.keepUser hn hu rfl rfl rfl
  | grantRole => exact hs.keepRole _
  | revokeRole => exact hs.keepRole _
  | revokeRoleGrantOption => exact hs.keepRole _

variable (config) in
/-- What an operation answers tells what became of the passwords. -/
theorem records_operate (hn : s.Named) (hs : s.Records known) (o : Operation) :
    ∃ status s', ((inMemory config).operate o).run s = (.ok status, s') ∧
      s'.Records (if status.isSuccess then known.after o else known) := by
  rcases run_apply config o s with ⟨fault, hrun⟩ | ⟨s', hrun, heffect⟩
  · refine ⟨fault.status, s, by rw [run_operate_eq, hrun, outcomeStatus], ?_⟩
    rw [isSuccess_of_apply hrun]
    exact hs
  · refine ⟨.success, s', by rw [run_operate_eq, hrun, outcomeStatus], ?_⟩
    exact heffect.records hn hs

end Authority

end Warden
