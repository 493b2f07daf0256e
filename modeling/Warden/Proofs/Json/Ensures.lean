import Warden.Json.Record

namespace Warden

/-- A list is gone through without a failure when each member gives the one at its place. -/
theorem mapM_eq_ok {α β : Type} {f : α → Except Fault β} {xs : List α} {ys : List β} :
    xs.mapM f = .ok ys ↔ xs.map f = ys.map .ok := by
  induction xs generalizing ys with
  | nil => cases ys <;> simp [pure, Except.pure]
  | cons x xs ih =>
    rw [List.mapM_cons, List.map_cons]
    constructor
    · intro h
      obtain ⟨y, hy, h⟩ := Fault.of_bind_ok h
      obtain ⟨ys', hys, h⟩ := Fault.of_bind_ok h
      obtain rfl := Except.ok.inj h
      rw [hy, ih.1 hys, List.map_cons]
    · intro h
      obtain ⟨y, ys', rfl, hy, hys⟩ := List.map_eq_cons_iff.1 h.symm
      rw [← hy, ih.2 hys.symm]
      rfl

theorem of_mapM_ok {α β : Type} {f : α → Except Fault β} {P : β → Prop}
    (hf : ∀ x y, f x = .ok y → P y) {xs : List α} {ys : List β} (h : xs.mapM f = .ok ys) :
    ∀ y ∈ ys, P y := by
  intro y hy
  have hmem : Except.ok y ∈ xs.map f := mapM_eq_ok.1 h ▸ List.mem_map_of_mem hy
  obtain ⟨x, -, hx⟩ := List.mem_map.1 hmem
  exact hf x y hx

namespace Json

theorem of_checked {α : Type} {x : Except Fault α} {a : α} (h : checked x = .ok a) : x = .ok a := by
  cases x with
  | error fault => cases h
  | ok a' => exact h

namespace Reading

variable {α β : Type} {P : α → Prop} {Q : β → Prop}

def Ensures (r : Reading α) (P : α → Prop) : Prop := ∀ a, r = .value a → P a

theorem Ensures.trivial (r : Reading α) : r.Ensures fun _ => True := fun _ _ => True.intro

theorem ofExcept_ensures {x : Except Fault α} (h : ∀ a, x = .ok a → P a) (place : Nat) :
    (ofExcept place x).Ensures P := by
  intro a ha
  cases x with
  | ok a' =>
    cases ha
    exact h a rfl
  | error fault => cases ha

theorem Ensures.of_toExcept {r : Reading α} (h : r.Ensures P) {a : α} (ha : r.toExcept = .ok a) :
    P a := by
  cases r with
  | value a' => exact h a (congrArg _ (Except.ok.inj ha))
  | flaw place fault => cases ha

theorem Ensures.map {r : Reading α} (h : r.Ensures P) {f : α → β} (hf : ∀ a, P a → Q (f a)) :
    (r.map f).Ensures Q := by
  intro b hb
  cases r with
  | value a =>
    cases hb
    exact hf a (h a rfl)
  | flaw place fault => cases hb

theorem Ensures.seq {rf : Reading (α → β)} {r : Reading α}
    (hf : rf.Ensures fun f => ∀ a, P a → Q (f a)) (h : r.Ensures P) : (rf <*> r).Ensures Q := by
  intro b hb
  cases rf with
  | value f =>
    cases r with
    | value a =>
      cases hb
      exact hf f rfl a (h a rfl)
    | flaw place fault => cases hb
  | flaw place fault =>
    cases r with
    | value a => cases hb
    | flaw place' fault' =>
      change (if place' < place then _ else _) = _ at hb
      split at hb <;> cases hb

theorem map_eq (f : α → β) (r : Reading α) : f <$> r = r.map f := by cases r <;> rfl

theorem Ensures.seqLeft {r : Reading α} (h : r.Ensures P) (r' : Reading β) :
    (r <* r').Ensures P := by
  have hconst : (Function.const β <$> r).Ensures fun f => ∀ b, True → P (f b) := by
    rw [map_eq]
    exact h.map fun a ha _ _ => ha
  exact hconst.seq (trivial r')

end Reading

def Ensures {α : Type} (decoder : Decoder α) (P : α → Prop) : Prop :=
  ∀ medium j a, decoder medium j = .ok a → P a

section Decoders

variable {α β : Type} {decoder : Decoder α} {P : α → Prop} {Q : β → Prop}

theorem Ensures.decodeList (h : Ensures decoder P) :
    Ensures (decodeList decoder) fun as => ∀ a ∈ as, P a := by
  intro medium j as has
  cases j with
  | array items => exact of_mapM_ok (h medium.inner) has
  | _ => cases has

theorem Ensures.decodeMap (h : Ensures decoder P) :
    Ensures (decodeMap decoder) fun m => ∀ e ∈ m.entries, P e.2 := by
  intro medium j m hm
  cases j with
  | object fields =>
    obtain ⟨entries, hentries, hm⟩ := Fault.of_bind_ok hm
    obtain rfl := Except.ok.inj hm
    refine KeyMap.forall_ofList (of_mapM_ok (fun f e he => ?_) hentries)
    obtain ⟨a, ha, he⟩ := Fault.of_bind_ok he
    obtain rfl := Except.ok.inj he
    exact h _ _ _ ha
  | _ => cases hm

namespace Row

variable {row : Row} {name : String}

theorem field?_ensures (h : Ensures decoder P) :
    (row.field? name decoder).Ensures fun a? => ∀ a ∈ a?, P a := by
  refine Reading.Ensures.seqLeft ?_ _
  split
  · intro a? ha?
    cases ha?
    exact nofun
  · rename_i place j _ _
    have hj : (Reading.ofExcept place (decoder row.medium j)).Ensures P :=
      Reading.ofExcept_ensures (h row.medium j) place
    exact hj.map fun a ha a' ha' => Option.mem_some.1 ha' ▸ ha

theorem withDefault_ensures {default : α} (hdefault : P default) (h : Ensures decoder P) :
    (row.withDefault name default decoder).Ensures P := by
  refine (field?_ensures h).map fun a? ha? => ?_
  cases a? with
  | none => exact hdefault
  | some a => exact ha? a rfl

end Row

theorem Ensures.decodeRecord {names : List String} {build : Row → Reading α}
    (h : ∀ row, (build row).Ensures P) : Ensures (decodeRecord names build) P := by
  intro medium j a ha
  cases j with
  | object fields => exact ((h _).seqLeft _).of_toExcept ha
  | array items => exact ((h _).seqLeft _).of_toExcept ha
  | _ => cases ha

theorem Ensures.decodeSpread {names : List String} {build : Row → Reading α}
    {spread : Row → Reading β} (h : ∀ row, (build row).Ensures P)
    (hspread : ∀ row, (spread row).Ensures Q) :
    Ensures (decodeSpread names build spread) fun ab => P ab.1 ∧ Q ab.2 := by
  intro medium j ab hab
  cases j with
  | object fields =>
    obtain ⟨a, ha, hab⟩ := Fault.of_bind_ok hab
    obtain ⟨b, hb, hab⟩ := Fault.of_bind_ok hab
    obtain rfl := Except.ok.inj hab
    exact ⟨((h _).seqLeft _).of_toExcept ha, (hspread _).of_toExcept hb⟩
  | _ => cases hab

end Decoders

theorem decodeChars_eq_ok {α : Type} {decoder : Decoder α} {cs : List Char} {a : α} :
    decodeChars decoder cs = .ok a ↔
      decoder .document (read cs).value = .ok a ∧ (read cs).clean = true := by
  constructor
  · intro h
    obtain ⟨a', ha', h⟩ := Fault.of_bind_ok h
    split at h
    · rename_i hclean
      rw [← Except.ok.inj h]
      exact ⟨ha', hclean⟩
    · cases h
  · rintro ⟨ha, hclean⟩
    rw [decodeChars, decode, ha]
    exact if_pos hclean

/-- What a text gives, its value gives. -/
theorem of_decodeChars {α : Type} {decoder : Decoder α} {cs : List Char} {a : α}
    (h : decodeChars decoder cs = .ok a) : decoder .document (read cs).value = .ok a :=
  (decodeChars_eq_ok.1 h).1

end Json

end Warden
