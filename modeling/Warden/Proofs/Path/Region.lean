import Mathlib.Order.Defs.Unbundled
import Warden.Proofs.Path.Tree
import Warden.Proofs.Path.Written

namespace Warden

/-- A name as it stands in a path: a text without a dot, and no wildcard. -/
structure PlainName (name : String) : Prop where
  ne_empty : name ≠ ""
  undotted : '.' ∉ name.toList
  ne_anyName : name ≠ Pattern.anyName
  ne_anyRest : name ≠ Pattern.anyRest

structure Path where
  names : List String
  rooted : names.head? = some "root"
  plain : ∀ name ∈ names, PlainName name

namespace Pattern

/-- What the segments of a pattern stand for, name by name. -/
inductive Stands : List String → List String → Prop
  | done : Stands [] []
  | rest (names : List String) : Stands [anyRest] names
  | any (name : String) {segments names : List String} (h : Stands segments names) :
      Stands (anyName :: segments) (name :: names)
  | literal {name : String} (hany : name ≠ anyName) (hrest : name ≠ anyRest)
      {segments names : List String} (h : Stands segments names) :
      Stands (name :: segments) (name :: names)

def Matches (p : Pattern) (path : Path) : Prop := Stands p.segments path.names

variable {a b name : String} {as names ps qs : List String}

theorem not_stands_nil (ha : a ≠ anyRest) : ¬Stands (a :: as) [] := by
  intro h
  cases h
  exact ha rfl

theorem stands_cons (ha : a ≠ anyRest) :
    Stands (a :: as) (name :: names) ↔ (a = anyName ∨ a = name) ∧ Stands as names := by
  constructor
  · intro h
    cases h with
    | rest => exact absurd rfl ha
    | any _ h => exact ⟨.inl rfl, h⟩
    | literal _ _ h => exact ⟨.inr rfl, h⟩
  · rintro ⟨hname, h⟩
    by_cases hany : a = anyName
    · rw [hany]
      exact .any name h
    · obtain rfl := hname.resolve_left hany
      exact .literal hany ha h

theorem coversSegments_antisymm (hps : flaw?.inner ps = none)
    (hqs : flaw?.inner qs = none) (hpq : coversSegments ps qs = true)
    (hqp : coversSegments qs ps = true) : ps = qs := by
  induction ps generalizing qs with
  | nil =>
    cases qs with
    | nil => rfl
    | cons b bs => cases hpq
  | cons a as ih =>
    obtain ⟨-, hlast, has⟩ := inner_cons.1 hps
    cases qs with
    | nil => cases hqp
    | cons b bs =>
      obtain ⟨-, hlast', hbs⟩ := inner_cons.1 hqs
      by_cases ha : a = anyRest
      · -- Only `**` covers `**`.
        have hb : b = anyRest := Decidable.byContradiction fun hb =>
          ((coversSegments_cons hb).1 hqp).1 ha
        rw [ha, hb, hlast ha, hlast' hb]
      · obtain ⟨hb, hab, hpq⟩ := (coversSegments_cons ha).1 hpq
        obtain ⟨-, hba, hqp⟩ := (coversSegments_cons hb).1 hqp
        have heq : a = b := by
          rcases hab with hab | hab
          · exact hab.trans (hba.elim Eq.symm fun hba => hab.symm.trans hba.symm)
          · exact hab
        rw [heq, ih has hbs hpq hqp]

theorem covers_antisymm {p q : Pattern} (hpq : p.covers q = true) (hqp : q.covers p = true) :
    p = q :=
  segments_injective (coversSegments_antisymm p.formed.inner q.formed.inner hpq hqp)

theorem stands_of_covers (hps : flaw?.inner ps = none) (hcovers : coversSegments ps qs = true)
    (h : Stands qs names) : Stands ps names := by
  induction ps generalizing qs names with
  | nil =>
    cases qs with
    | nil => exact h
    | cons b bs => cases hcovers
  | cons a as ih =>
    obtain ⟨-, hlast, has⟩ := inner_cons.1 hps
    by_cases ha : a = anyRest
    · rw [ha, hlast ha]
      exact .rest names
    · cases qs with
      | nil => simp [coversSegments, ha] at hcovers
      | cons b bs =>
        obtain ⟨hb, hab, hcovers⟩ := (coversSegments_cons ha).1 hcovers
        cases names with
        | nil => exact absurd h (not_stands_nil hb)
        | cons name names =>
          obtain ⟨hname, h⟩ := (stands_cons hb).1 h
          refine (stands_cons ha).2 ⟨?_, ih has hcovers h⟩
          rcases hab with hab | rfl
          · exact .inl hab
          · exact hname

/-- A segment but `**` stands for a name, which another literal does not stand for. -/
theorem exists_name (hempty : b ≠ "") (hundotted : '.' ∉ b.toList)
    (hrest : b ≠ anyRest) (other : String) :
    ∃ name, PlainName name ∧ (b = anyName ∨ b = name) ∧ (other = name → other = b) := by
  by_cases hany : b = anyName
  · -- Of two names, one is not the other literal.
    by_cases hother : other = "a"
    · refine ⟨"b", by constructor <;> decide, .inl hany, fun h => ?_⟩
      rw [hother] at h
      exact absurd h (by decide)
    · exact ⟨"a", by constructor <;> decide, .inl hany, fun h => absurd h hother⟩
  · exact ⟨b, ⟨hempty, hundotted, hany, hrest⟩, .inr rfl, id⟩

/-- Every pattern stands for something. -/
theorem exists_stands (hqs : flaw?.inner qs = none)
    (hundotted : ∀ s ∈ qs, '.' ∉ s.toList) :
    ∃ names, (∀ name ∈ names, PlainName name) ∧ Stands qs names := by
  induction qs with
  | nil => exact ⟨[], List.forall_mem_nil _, .done⟩
  | cons b bs ih =>
    obtain ⟨hempty, hlast, hbs⟩ := inner_cons.1 hqs
    obtain ⟨hb, hdots⟩ := List.forall_mem_cons.1 hundotted
    by_cases hrest : b = anyRest
    · rw [hrest, hlast hrest]
      exact ⟨[], List.forall_mem_nil _, .rest []⟩
    · obtain ⟨name, hplain, hname, -⟩ := exists_name hempty hb hrest ""
      obtain ⟨names, hnames, hstands⟩ := ih hbs hdots
      exact ⟨name :: names, List.forall_mem_cons.2 ⟨hplain, hnames⟩,
        (stands_cons hrest).2 ⟨hname, hstands⟩⟩

/-- A pattern that stands for all that another one stands for covers it. -/
theorem covers_of_stands (hqs : flaw?.inner qs = none) (hundotted : ∀ s ∈ qs, '.' ∉ s.toList)
    (hall : ∀ names, (∀ name ∈ names, PlainName name) → Stands qs names → Stands ps names) :
    coversSegments ps qs = true := by
  induction ps generalizing qs with
  | nil =>
    obtain ⟨names, hnames, hstands⟩ := exists_stands hqs hundotted
    cases hall names hnames hstands with
    | done =>
      -- What stands for no names at all is no segments, or `**`, which stands for more.
      cases hstands with
      | done => rfl
      | rest =>
        have hplain : PlainName "a" := by constructor <;> decide
        cases hall ["a"] (List.forall_mem_singleton.2 hplain) (.rest ["a"])
  | cons a as ih =>
    by_cases ha : a = anyRest
    · cases qs <;> simp [coversSegments, ha]
    cases qs with
    | nil => exact absurd (hall [] (List.forall_mem_nil _) .done) (not_stands_nil ha)
    | cons b bs =>
      obtain ⟨hempty, hlast, hbs⟩ := inner_cons.1 hqs
      obtain ⟨hb, hdots⟩ := List.forall_mem_cons.1 hundotted
      have hrest : b ≠ anyRest := by
        intro hrest
        rw [hrest, hlast hrest] at hall
        exact not_stands_nil ha (hall [] (List.forall_mem_nil _) (.rest []))
      obtain ⟨name, hplain, hname, hother⟩ := exists_name hempty hb hrest a
      -- With this name in front, what the other segments stand for is carried over.
      have htail (names : List String) (hnames : ∀ x ∈ names, PlainName x)
          (hstands : Stands bs names) : (a = anyName ∨ a = name) ∧ Stands as names :=
        (stands_cons ha).1 (hall (name :: names) (List.forall_mem_cons.2 ⟨hplain, hnames⟩)
          ((stands_cons hrest).2 ⟨hname, hstands⟩))
      obtain ⟨names, hnames, hstands⟩ := exists_stands hbs hdots
      refine (coversSegments_cons ha).2 ⟨hrest, ?_, ih hbs hdots fun names hnames hstands => ?_⟩
      · exact (htail names hnames hstands).1.imp_right hother
      · exact (htail names hnames hstands).2

theorem head?_of_stands {p : Pattern} (h : Stands p.segments names) :
    names.head? = some "root" := by
  have hhead := p.formed.head
  have hroot : "root" ≠ anyRest := by decide
  cases hs : p.segments with
  | nil =>
    rw [hs] at hhead
    cases hhead
  | cons s rest =>
    rw [hs] at hhead h
    obtain rfl : s = "root" := Option.some.inj hhead
    cases names with
    | nil => exact absurd h (not_stands_nil hroot)
    | cons name names =>
      have hname := ((stands_cons hroot).1 h).1.resolve_left (by decide)
      exact congrArg some hname.symm

/-- Whatever names two patterns are made of: one covers the other exactly when it stands for every
path that the other one stands for, and patterns are partially ordered by this. -/
theorem covers_iff_includes :
    (∀ p q : Pattern, p.covers q = true ↔ ∀ path : Path, q.Matches path → p.Matches path) ∧
      IsPartialOrder Pattern fun p q => p.covers q = true := by
  constructor
  · intro p q
    constructor
    · exact fun hcovers path hmatches => stands_of_covers p.formed.inner hcovers hmatches
    · intro hall
      refine covers_of_stands q.formed.inner q.formed.undotted fun names hnames hstands => ?_
      exact hall ⟨names, head?_of_stands hstands, hnames⟩ hstands
  · exact {
      refl := covers_refl
      trans := fun _ _ _ => covers_trans
      antisymm := fun _ _ => covers_antisymm }

end Pattern

end Warden
