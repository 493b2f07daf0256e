import Warden.Proofs.Authority.Passwords
import Warden.Proofs.Node.Refusal

namespace Warden.Site

open Authority

section Passwords

variable {ρ : Type}

/-- The passwords after an event: an operation counts when it is answered as a success. -/
def passwordsAfter (c : Client ρ) (s : Site ρ) (known : Passwords) : Event → Passwords
  | .operate o => if (s.operate c o).1.isSuccess then known.after o else known
  | _ => known

def passwords (c : Client ρ) : Site ρ → Passwords → List Event → Passwords
  | _, known, [] => known
  | s, known, e :: events => passwords c (s.step c e) (s.passwordsAfter c known e) events

end Passwords

variable {config : Config} {s : Site Registry} {known : Passwords}

/-- A question may make the node forget and remember, but it leaves the registry alone. -/
theorem remote_reply (s : Site Registry) (q : Question) :
    (s.reply (inMemory config).client q).2.remote = s.remote := by
  have hcheck (r : PrivilegeRequest) :
      (((inMemory config).checkPrivilege r).run s.remote).2 = s.remote := by
    obtain ⟨info, hrun, -⟩ := @run_checkPrivilege_brings config s.remote r
    rw [hrun]
  cases q with
  | check username p target option =>
    change (s.check (inMemory config).client username p target option).2.remote = s.remote
    rw [Site.check]
    split
    · rfl
    · split
      · rfl
      · change (s.checkPrivilege _ username p target option).2.remote = s.remote
        rw [Site.checkPrivilege]
        split
        · rfl
        · exact hcheck _
  | checkList username paths p option =>
    change (s.checkList (inMemory config).client username paths p option).2.remote = s.remote
    rw [Site.checkList]
    split
    · rfl
    · split
      · rfl
      · change (s.checkPaths _ username paths p option).2.remote = s.remote
        rw [Site.checkPaths]
        split
        · rfl
        · dsimp only
          split
          · rfl
          · exact hcheck _
  | tree username p =>
    change (s.tree (inMemory config).client username p).2.remote = s.remote
    rw [Site.tree]
    split
    · rfl
    · rw [Site.authorizedTree]
      split
      · rfl
      · rename_i hscope
        dsimp only
        split
        · rfl
        · obtain ⟨info, hrun, -⟩ := @run_fetchTree_brings config s.remote
            (.forPaths username p [] false) hscope
          exact congrArg Prod.snd hrun
  | login username password =>
    change (s.login (inMemory config).client username password).2.remote = s.remote
    rw [Site.login]
    split
    · rfl
    · obtain ⟨info, hrun, -⟩ := @run_login_brings config s.remote username password
      exact congrArg Prod.snd hrun
  | role username rolename =>
    change (s.checkRole (inMemory config).client username rolename).2.remote = s.remote
    rw [Site.checkRole]
    split
    · rfl
    · obtain ⟨info, hrun, -⟩ := @run_checkMembership_brings config s.remote username rolename
      exact congrArg Prod.snd hrun

theorem records_step (hn : s.remote.Named) (h : s.remote.Records known) (e : Event) :
    (s.step (inMemory config).client e).remote.Records
      (s.passwordsAfter (inMemory config).client known e) := by
  cases e with
  | ask q =>
    change (s.reply (inMemory config).client q).2.remote.Records known
    rw [remote_reply]
    exact h
  | operate o =>
    obtain ⟨status, registry, hrun, hrecords⟩ := records_operate config hn h o
    -- The node hands the status on as it is.
    have hstatus : (s.operate (inMemory config).client o).1 = status := by
      change (s.ask ((inMemory config).operate o) (·.takeOperation o ·)).1 = status
      rw [Site.ask, hrun]
      dsimp only [Node.takeOperation]
      split <;> rfl
    have hremote : (s.operate (inMemory config).client o).2.remote = registry :=
      congrArg Prod.snd hrun
    change (s.operate (inMemory config).client o).2.remote.Records
      (if (s.operate (inMemory config).client o).1.isSuccess then known.after o else known)
    rw [hstatus, hremote]
    exact hrecords
  | query q =>
    obtain ⟨response, hrun⟩ := run_query config s.remote q
    have hremote : (s.query (inMemory config).client q).2.remote = s.remote :=
      congrArg Prod.snd hrun
    change (s.query (inMemory config).client q).2.remote.Records known
    rw [hremote]
    exact h
  | heartbeat now => exact h
  | invalidate username rolename => exact h
  | acceptCache accept => exact h

theorem Tracks.records_run {superUser : String} {R : User → User → Prop}
    (h : Tracks superUser config R s) (hrefl : ∀ u, R u u)
    (hdrop : ∀ rolename u v, R u v → R u (v.removeRole rolename).1)
    (hs : s.remote.Records known) (events : List Event) :
    (s.run (inMemory config).client events).remote.Records
      (s.passwords (inMemory config).client known events) := by
  induction events generalizing s known with
  | nil => exact hs
  | cons e events ih =>
    exact ih (h.step hrefl e fun rolename _ => hdrop rolename) (records_step h.named hs e)

/-- A login succeeds exactly if its user is stored and its digest is that of the password that the
user was given last. All other logins get one and the same answer, for users who are stored and for
those who are not, from the cache and from the authority. -/
structure Authenticates (a : Authority Registry) (s : Site Registry) (known : Passwords) :
    Prop where
  success : ∀ {username password}, (s.login a.client username password).1.isSuccess = true ↔
    (∃ u, s.remote.users.get? username = some u) ∧
      ∃ q, known.get? username = some q ∧
        Sha256.digest (Text.bytes password ++ Text.bytes username) =
          Sha256.digest (Text.bytes q ++ Text.bytes username)
  failure : ∀ {username password}, (s.login a.client username password).1.isSuccess = false →
    (s.login a.client username password).1 = authenticationFailed

theorem Tracks.authenticates {superUser : String} (h : Tracks superUser config Outlives s)
    (hknown : s.remote.Records known) : Authenticates (inMemory config) s known := by
  have hanswer (username password : String) : (s.login (inMemory config).client username
      password).1 = if (s.remote.users.get? username).any (·.accepts username password)
        then .success else authenticationFailed := by
    have hlogin := @Tracks.login_eq _ _ username _ h password
    rw [admits_eq] at hlogin
    exact hlogin
  have hsuccess {username password : String} :
      (s.login (inMemory config).client username password).1.isSuccess = true ↔
        (s.remote.users.get? username).any (·.accepts username password) = true := by
    rw [hanswer]
    split
    · exact iff_of_true rfl ‹_›
    · exact iff_of_false Bool.false_ne_true ‹_›
  constructor
  · intro username password
    rw [hsuccess, hknown.accepts_iff, hknown.stored_iff]
    constructor
    · rintro ⟨q, hq, hdigest⟩
      exact ⟨⟨q, hq⟩, q, hq, hdigest⟩
    · rintro ⟨-, hopens⟩
      exact hopens
  · intro username password hfailed
    rw [hanswer]
    exact if_neg fun haccepts => Bool.false_ne_true (hfailed.symm.trans (hsuccess.2 haccepts))

/-- At any point of any run a node lets in exactly those who know the password given last. -/
theorem run_authenticates {settings : Config} {a : Authority Registry} {registry : Registry}
    (hopen : (openMemory config).run .empty = (.ok a, registry)) (events : List Event) :
    Authenticates a ((cold settings registry).run a.client events)
      ((cold settings registry).passwords a.client (.founded config) events) := by
  have hrecords : registry.Records (.founded config) := by
    rw [(of_openMemory hopen).2]
    exact Registry.records_founded config
  obtain ⟨rfl, htracks⟩ := tracks_opened (R := Outlives) settings hopen
  have hrun : Tracks settings.adminName config Outlives
      ((cold settings registry).run (inMemory config).client events) :=
    htracks.run Outlives.refl events fun _ _ _ _ h => h.removeRole _
  have hknown := htracks.records_run Outlives.refl (fun _ _ _ h => h.removeRole _) hrecords events
  exact hrun.authenticates hknown

/-- The node has seen the user twice, with two passwords and between them nobody; a change of the
password was refused. It goes by the second one. -/
theorem authenticates_recreated :
    let events : List Event := [.operate (.createUser "alice" "secret1"),
      .ask (.login "alice" "secret1"), .operate (.dropUser "alice"),
      .operate (.createUser "alice" "secret2"), .ask (.login "alice" "secret2"),
      .operate (.updatePassword "alice" "x")]
    let s := (cold .standard (.founded .standard)).run (inMemory .standard).client events
    (s.login (inMemory .standard).client "alice" "secret2").1.isSuccess = true ∧
      (s.login (inMemory .standard).client "alice" "secret1").1 = authenticationFailed ∧
      (s.login (inMemory .standard).client "nobody" "secret2").1 = authenticationFailed := by
  intro events s
  have hopen : (openMemory .standard).run .empty =
      (.ok (inMemory .standard), .founded .standard) := rfl
  let known := (cold .standard (.founded .standard)).passwords (inMemory .standard).client
    (.founded .standard) events
  have hknows : Authenticates (inMemory .standard) s known := run_authenticates hopen events
  have hstored : ∃ u, s.remote.users.get? "alice" = some u :=
    Option.isSome_iff_exists.1 (by decide +kernel)
  have hgiven : known.get? "alice" = some "secret2" := by decide +kernel
  have hfirst : (s.login (inMemory .standard).client "alice" "secret1").1.isSuccess = false := by
    decide +kernel
  have hnobody : (s.login (inMemory .standard).client "nobody" "secret2").1.isSuccess = false := by
    decide +kernel
  refine ⟨hknows.success.2 ⟨hstored, "secret2", hgiven, rfl⟩, ?_, ?_⟩
  · exact hknows.failure hfirst
  · exact hknows.failure hnobody

end Warden.Site
