import Warden.Fault

namespace Warden

def Action (σ α : Type) := σ → Except Fault α × σ

namespace Action

variable {σ τ α β : Type}

def run (x : Action σ α) (s : σ) : Except Fault α × σ := x s

instance : Monad (Action σ) where
  pure a := fun s => (.ok a, s)
  bind x f := fun s =>
    match x s with
    | (.ok a, s) => f a s
    | (.error fault, s) => (.error fault, s)

def fail (fault : Fault) : Action σ α := fun s => (.error fault, s)

def ofExcept : Except Fault α → Action σ α
  | .ok a => pure a
  | .error fault => fail fault

/-- Reads the state. -/
def look (f : σ → Except Fault α) : Action σ α := fun s => (f s, s)

/-- Changes the state, unless the change fails. -/
def change (f : σ → Except Fault (α × σ)) : Action σ α := fun s =>
  match f s with
  | .ok (a, s) => (.ok a, s)
  | .error fault => (.error fault, s)

/-- A change that cannot fail. -/
def update (f : σ → σ × α) : Action σ α := fun s => (.ok (f s).2, (f s).1)

/-- A change behind a check. -/
def checked (check : Except Fault Unit) (f : σ → σ × α) : Action σ α := do
  ofExcept check
  update f

/-- A step over one part of a larger state. -/
def within (part : τ → σ) (replace : σ → τ → τ) (x : Action σ α) : Action τ α := fun t =>
  let (r, s) := x (part t)
  (r, replace s t)

/-- A step over a part that may be missing. -/
def withinSome (part : τ → Option σ) (replace : σ → τ → τ) (x : Action σ α)
    (missing : Action τ α) : Action τ α := fun t =>
  match part t with
  | some s =>
    let (r, s) := x s
    (r, replace s t)
  | none => missing t

@[simp] theorem run_pure (a : α) (s : σ) : (pure a : Action σ α).run s = (.ok a, s) := rfl

@[simp] theorem run_ofExcept (r : Except Fault α) (s : σ) : (ofExcept r).run s = (r, s) := by
  cases r <;> rfl

@[simp] theorem run_look (f : σ → Except Fault α) (s : σ) : (look f).run s = (f s, s) := rfl

theorem run_change (f : σ → Except Fault (α × σ)) (s : σ) :
    (change f).run s =
      match f s with
      | .ok (a, s) => (.ok a, s)
      | .error fault => (.error fault, s) := rfl

theorem run_change_ok {f : σ → Except Fault (α × σ)} {s s' : σ} {a : α} (h : f s = .ok (a, s')) :
    (change f).run s = (.ok a, s') := by
  rw [run_change, h]

@[simp] theorem run_update (f : σ → σ × α) (s : σ) : (update f).run s = (.ok (f s).2, (f s).1) := rfl

theorem run_within (part : τ → σ) (replace : σ → τ → τ) (x : Action σ α) (t : τ) :
    (x.within part replace).run t = ((x.run (part t)).1, replace (x.run (part t)).2 t) := rfl

theorem run_withinSome (part : τ → Option σ) (replace : σ → τ → τ) (x : Action σ α)
    (missing : Action τ α) (t : τ) : (withinSome part replace x missing).run t =
      match part t with
      | some s => ((x.run s).1, replace (x.run s).2 t)
      | none => missing.run t := by
  change withinSome part replace x missing t = _
  rw [withinSome]
  cases part t <;> rfl

theorem run_bind (x : Action σ α) (f : α → Action σ β) (s : σ) :
    (x >>= f).run s =
      match x.run s with
      | (.ok a, s) => (f a).run s
      | (.error fault, s) => (.error fault, s) := rfl

theorem run_bind_ok {x : Action σ α} {s s' : σ} {a : α} (h : x.run s = (.ok a, s'))
    (f : α → Action σ β) : (x >>= f).run s = (f a).run s' := by
  rw [run_bind, h]

theorem run_bind_error {x : Action σ α} {s s' : σ} {fault : Fault}
    (h : x.run s = (.error fault, s')) (f : α → Action σ β) :
    (x >>= f).run s = (.error fault, s') := by
  rw [run_bind, h]

theorem of_checked_ok {check : Except Fault Unit} {f : σ → σ × α} {s s' : σ} {a : α}
    (h : (checked check f).run s = (.ok a, s')) : check = .ok () ∧ f s = (s', a) := by
  cases check with
  | error fault => cases h
  | ok =>
    obtain ⟨ha, hs⟩ := Prod.mk.inj h
    exact ⟨rfl, Prod.ext hs (Except.ok.inj ha)⟩

/-- A check that fails comes before any change. -/
theorem of_checked_error {check : Except Fault Unit} {f : σ → σ × α} {s s' : σ} {fault : Fault}
    (h : (checked check f).run s = (.error fault, s')) : check = .error fault ∧ s' = s := by
  cases check with
  | error fault' =>
    obtain ⟨hfault, hs⟩ := Prod.mk.inj h
    exact ⟨congrArg Except.error (Except.error.inj hfault), hs.symm⟩
  | ok => cases h

theorem run_checked_ok {check : Except Fault Unit} (hcheck : check = .ok ()) (f : σ → σ × α)
    (s : σ) : (checked check f).run s = (.ok (f s).2, (f s).1) := by
  rw [hcheck]
  rfl

/-- A step is a change behind a check if it is one once the check has passed. -/
theorem run_check_bind {check : Except Fault Unit} {x : Action σ α} {f : σ → σ × α} {s : σ}
    (h : check = .ok () → x.run s = (.ok (f s).2, (f s).1)) :
    (ofExcept check >>= fun _ => x).run s = (checked check f).run s := by
  cases check with
  | error fault => rfl
  | ok => exact h rfl

theorem run_discard (x : Action σ α) (s : σ) :
    (discard x).run s =
      match x.run s with
      | (.ok _, s) => (.ok (), s)
      | (.error fault, s) => (.error fault, s) := rfl

end Action

end Warden
