import Mathlib.Data.List.Pairwise
import Mathlib.Data.List.Sort
import Warden.Proofs.Path.Region

namespace Warden.PatternTree

open Pattern

variable {t u : PatternTree} {p q : Pattern} {ps qs : List Pattern}

instance : Std.Irrefl Apart where
  irrefl p h := by
    have hleft := h.left
    rw [covers_refl] at hleft
    cases hleft

instance : Std.Antisymm Apart where
  antisymm _ _ hpq hqp := absurd (lt_trans hpq.lt hqp.lt) (List.lt_irrefl _)

theorem covers_of_mem (hp : p ∈ t.patterns) : t.covers p = true :=
  covers_iff.2 ⟨p, hp, covers_refl p⟩

theorem Canonical.not_covers (ht : t.Canonical) (hp : p ∈ t.patterns) (hq : q ∈ t.patterns)
    (hne : p ≠ q) : p.covers q = false := by
  have hsymm : Std.Symm fun p q : Pattern => p.covers q = false ∧ q.covers p = false :=
    ⟨fun _ _ h => h.symm⟩
  have hboth : t.patterns.Pairwise fun p q => p.covers q = false ∧ q.covers p = false :=
    ht.imp fun happart => ⟨happart.left, happart.right⟩
  exact (hboth.forall hp hq hne).1

/-- What the tree has is what it covers and nothing else that it covers does. -/
theorem Canonical.mem_iff (ht : t.Canonical) :
    p ∈ t.patterns ↔
      t.covers p = true ∧ ∀ q, t.covers q = true → q.covers p = true → q = p := by
  constructor
  · intro hp
    refine ⟨covers_of_mem hp, fun q hq hqp => ?_⟩
    obtain ⟨x, hx, hxq⟩ := covers_iff.1 hq
    -- The one that covers `q` covers `p` as well, so it is `p`.
    have hxp : x = p := Decidable.byContradiction fun hne => by
      have hnot := ht.not_covers hx hp hne
      rw [covers_trans hxq hqp] at hnot
      cases hnot
    rw [hxp] at hxq
    exact covers_antisymm hqp hxq
  · rintro ⟨hp, hmax⟩
    obtain ⟨x, hx, hxp⟩ := covers_iff.1 hp
    exact hmax x (covers_of_mem hx) hxp ▸ hx

theorem Canonical.eq_iff (ht : t.Canonical) (hu : u.Canonical) :
    t = u ↔ ∀ q, t.covers q = true ↔ u.covers q = true := by
  constructor
  · rintro rfl q
    rfl
  · intro hcovers
    have hmem (p : Pattern) : p ∈ t.patterns ↔ p ∈ u.patterns := by
      rw [ht.mem_iff, hu.mem_iff]
      simp only [hcovers]
    have hpatterns : t.patterns = u.patterns := List.Pairwise.eq_of_mem_iff ht hu hmem
    exact congrArg PatternTree.mk hpatterns

theorem covers_ofList : (ofList ps).covers q = true ↔ ∃ p ∈ ps, p.covers q = true := by
  rw [ofList, covers_insertAll, or_iff_left]
  simp [covers, empty]

theorem canonical_ofList (ps : List Pattern) : (ofList ps).Canonical :=
  canonical_empty.insertAll ps

def Topmost (ps : List Pattern) (p : Pattern) : Prop :=
  p ∈ ps ∧ ∀ q ∈ ps, q.covers p = true → q = p

theorem mem_ofList : p ∈ (ofList ps).patterns ↔ Topmost ps p := by
  rw [(canonical_ofList ps).mem_iff, covers_ofList]
  constructor
  · rintro ⟨⟨x, hx, hxp⟩, hmax⟩
    have hlisted (q : Pattern) (hq : q ∈ ps) : q.covers p = true → q = p :=
      hmax q (covers_ofList.2 ⟨q, hq, covers_refl q⟩)
    exact ⟨hlisted x hx hxp ▸ hx, hlisted⟩
  · rintro ⟨hp, htop⟩
    refine ⟨⟨p, hp, covers_refl p⟩, fun q hq hqp => ?_⟩
    obtain ⟨x, hx, hxq⟩ := covers_ofList.1 hq
    have hxp : x = p := htop x hx (covers_trans hxq hqp)
    rw [hxp] at hxq
    exact covers_antisymm hqp hxq

/-- The order in which patterns come does not matter, nor does what other patterns cover. -/
theorem ofList_eq_iff : ofList ps = ofList qs ↔
    (∀ p ∈ ps, ∃ q ∈ qs, q.covers p = true) ∧ ∀ q ∈ qs, ∃ p ∈ ps, p.covers q = true := by
  have hsub (ps qs : List Pattern) (h : ∀ p ∈ ps, ∃ q ∈ qs, q.covers p = true) (x : Pattern) :
      (∃ p ∈ ps, p.covers x = true) → ∃ q ∈ qs, q.covers x = true := by
    rintro ⟨p, hp, hpx⟩
    obtain ⟨q, hq, hqp⟩ := h p hp
    exact ⟨q, hq, covers_trans hqp hpx⟩
  simp only [(canonical_ofList ps).eq_iff (canonical_ofList qs), covers_ofList]
  constructor
  · intro h
    exact ⟨fun p hp => (h p).1 ⟨p, hp, covers_refl p⟩, fun q hq => (h q).2 ⟨q, hq, covers_refl q⟩⟩
  · rintro ⟨hpq, hqp⟩ x
    exact ⟨hsub ps qs hpq x, hsub qs ps hqp x⟩

theorem insert_eq_self : t.insert p = t ↔ t.covers p = true := by
  constructor
  · intro hsame
    rw [← hsame]
    exact (covers_insert t p p).2 (.inl (covers_refl p))
  · exact insert_of_covers

theorem insertAll_append (t : PatternTree) (ps qs : List Pattern) :
    t.insertAll (ps ++ qs) = (t.insertAll ps).insertAll qs := List.foldl_append

/-- The ways to fill a tree: with single patterns, and with lists of them at the beginning or
later. -/
inductive Filling
  | nothing
  | collect (ps : List Pattern)
  | insert (f : Filling) (p : Pattern)
  | extend (f : Filling) (ps : List Pattern)

namespace Filling

def tree : Filling → PatternTree
  | nothing => .empty
  | collect ps => .ofList ps
  | insert f p => (f.tree.add p).2
  | extend f ps => f.tree.insertAll ps

def patterns : Filling → List Pattern
  | nothing => []
  | collect ps => ps
  | insert f p => f.patterns ++ [p]
  | extend f ps => f.patterns ++ ps

theorem tree_eq (f : Filling) : f.tree = ofList f.patterns := by
  induction f with
  | nothing => rfl
  | collect ps => rfl
  | insert f p ih =>
    rw [tree, patterns, ih, ofList, ofList, insertAll_append]
    rfl
  | extend f ps ih => rw [tree, patterns, ih, ofList, ofList, insertAll_append]

/-- However a tree was filled: its patterns ascend, none of them covers another, and they are the
topmost of those that came in. It covers what one of these covers, so it is equal to another tree
when each pattern of the one is covered by one of the other. The next pattern is reported as inserted
when the tree becomes another one. -/
theorem tree_canonical (f : Filling) :
    f.tree.patterns.Pairwise (· < ·) ∧
    (∀ p ∈ f.tree.patterns, ∀ q ∈ f.tree.patterns, p ≠ q → p.covers q = false) ∧
    (∀ p, p ∈ f.tree.patterns ↔ Topmost f.patterns p) ∧
    (∀ q, f.tree.covers q = true ↔ ∃ p ∈ f.patterns, p.covers q = true) ∧
    (∀ g : Filling, f.tree = g.tree ↔
      (∀ p ∈ f.patterns, ∃ q ∈ g.patterns, q.covers p = true) ∧
        ∀ q ∈ g.patterns, ∃ p ∈ f.patterns, p.covers q = true) ∧
    ∀ p, (f.tree.add p).1 = true ↔ (f.tree.add p).2 ≠ f.tree := by
  have hcanonical : f.tree.Canonical := f.tree_eq ▸ canonical_ofList f.patterns
  refine ⟨?_, ?_, ?_, ?_, ?_, ?_⟩
  · exact hcanonical.imp Apart.lt
  · exact fun p hp q hq hne => hcanonical.not_covers hp hq hne
  · intro p
    rw [f.tree_eq]
    exact mem_ofList
  · intro q
    rw [f.tree_eq]
    exact covers_ofList
  · intro g
    rw [f.tree_eq, g.tree_eq]
    exact ofList_eq_iff
  · intro p
    rw [add, Ne, insert_eq_self]
    simp

end Filling

end Warden.PatternTree
