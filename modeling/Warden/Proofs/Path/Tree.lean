import Warden.Principal

namespace Warden

namespace Pattern

theorem coversSegments_refl (ps : List String) : coversSegments ps ps = true := by
  induction ps with
  | nil => rfl
  | cons a as ih =>
    rw [coversSegments]
    by_cases ha : a = anyRest
    · rw [if_pos ha]
    · simp [ha, ih]

theorem covers_refl (p : Pattern) : p.covers p = true := coversSegments_refl p.segments

theorem coversSegments_cons {a b : String} {as bs : List String} (ha : a ≠ anyRest) :
    coversSegments (a :: as) (b :: bs) = true ↔
      b ≠ anyRest ∧ (a = anyName ∨ a = b) ∧ coversSegments as bs = true := by
  rw [coversSegments, if_neg ha]
  by_cases hb : b = anyRest
  · simp [hb]
  · simp [hb]

theorem coversSegments_trans {ps qs rs : List String} (hpq : coversSegments ps qs = true)
    (hqr : coversSegments qs rs = true) : coversSegments ps rs = true := by
  induction ps generalizing qs rs with
  | nil =>
    cases qs with
    | nil => exact hqr
    | cons b bs => cases hpq
  | cons a as ih =>
    -- A `**` ends its pattern and covers any rest; otherwise all three go on side by side.
    by_cases ha : a = anyRest
    · cases rs <;> simp [coversSegments, ha]
    · cases qs with
      | nil => simp [coversSegments, ha] at hpq
      | cons b bs =>
        obtain ⟨hb, hab, hpq⟩ := (coversSegments_cons ha).1 hpq
        cases rs with
        | nil => simp [coversSegments, hb] at hqr
        | cons c cs =>
          obtain ⟨hc, hbc, hqr⟩ := (coversSegments_cons hb).1 hqr
          refine (coversSegments_cons ha).2 ⟨hc, ?_, ih hpq hqr⟩
          rcases hab with hab | rfl
          · exact .inl hab
          · exact hbc

theorem covers_trans {p q r : Pattern} (hpq : p.covers q = true) (hqr : q.covers r = true) :
    p.covers r = true := coversSegments_trans hpq hqr

theorem lt_trans {p q r : Pattern} (hpq : p < q) (hqr : q < r) : p < r :=
  List.lt_trans hpq hqr

theorem segments_lt_of_not_lt {ps qs : List String} (h : ¬ ps < qs) (hne : ps ≠ qs) : qs < ps := by
  induction ps generalizing qs with
  | nil =>
    cases qs with
    | nil => exact absurd rfl hne
    | cons b bs => exact absurd (List.nil_lt_cons b bs) h
  | cons a as ih =>
    cases qs with
    | nil => exact List.nil_lt_cons a as
    | cons b bs =>
      rw [List.cons_lt_cons_iff, not_or, not_and] at h
      rw [List.cons_lt_cons_iff]
      by_cases hab : a = b
      · refine .inr ⟨hab.symm, ih (h.2 hab) ?_⟩
        rintro rfl
        exact hne (by rw [hab])
      · exact .inl (Entries.lt_of_not_lt_of_ne h.1 hab)

theorem lt_of_not_lt {p q : Pattern} (h : ¬ p < q) (hne : p ≠ q) : q < p :=
  segments_lt_of_not_lt h fun hs => hne (segments_injective hs)

end Pattern

namespace PatternTree

open Pattern

/-- One pattern stands before another, and neither of them covers the other. -/
structure Apart (p q : Pattern) : Prop where
  lt : p < q
  left : p.covers q = false
  right : q.covers p = false

def Canonical (t : PatternTree) : Prop := t.patterns.Pairwise Apart

variable {t : PatternTree} {p q : Pattern}

theorem canonical_empty : empty.Canonical := List.Pairwise.nil

theorem canonical_everything : everything.Canonical := List.pairwise_singleton _ _

theorem covers_iff : t.covers q = true ↔ ∃ p ∈ t.patterns, p.covers q = true := List.any_eq_true

theorem covers_eq_false (h : t.covers p = false) (hq : q ∈ t.patterns) : q.covers p = false := by
  rw [covers, List.any_eq_false] at h
  exact Bool.eq_false_iff.2 (h q hq)

theorem place_cons (p x : Pattern) (xs : List Pattern) :
    place p (x :: xs) = if x < p then x :: place p xs else p :: x :: xs := by
  by_cases h : x < p <;> simp [place, h]

theorem pairwise_place {ps : List Pattern} (hps : ps.Pairwise Apart)
    (hleft : ∀ q ∈ ps, p.covers q = false) (hright : ∀ q ∈ ps, q.covers p = false) :
    (place p ps).Pairwise Apart := by
  induction ps with
  | nil => exact List.pairwise_singleton _ _
  | cons x xs ih =>
    obtain ⟨hx, hxs⟩ := List.pairwise_cons.1 hps
    obtain ⟨hpx, hleft⟩ := List.forall_mem_cons.1 hleft
    obtain ⟨hxp, hright⟩ := List.forall_mem_cons.1 hright
    rw [place_cons]
    split
    · rename_i hlt
      refine List.pairwise_cons.2 ⟨fun q hq => ?_, ih hxs hleft hright⟩
      rcases mem_place.1 hq with rfl | hq
      · exact ⟨hlt, hxp, hpx⟩
      · exact hx q hq
    · rename_i hnlt
      -- A pattern covers itself, so `x` is another one, and greater.
      have hlt : p < x := by
        refine lt_of_not_lt hnlt ?_
        rintro rfl
        rw [covers_refl] at hpx
        cases hpx
      refine List.pairwise_cons.2 ⟨fun q hq => ?_, hps⟩
      rcases List.mem_cons.1 hq with rfl | hq
      · exact ⟨hlt, hpx, hxp⟩
      · exact ⟨lt_trans hlt (hx q hq).lt, hleft q hq, hright q hq⟩

theorem Canonical.insert (ht : t.Canonical) (p : Pattern) : (t.insert p).Canonical := by
  rw [PatternTree.insert]
  split
  · exact ht
  · rename_i hcovers
    have hright := Bool.eq_false_iff.2 hcovers
    refine pairwise_place (List.Pairwise.filter _ ht) (fun q hq => ?_) fun q hq => ?_
    · simpa using (List.mem_filter.1 hq).2
    · exact covers_eq_false hright (List.mem_filter.1 hq).1

/-- What a new pattern makes superfluous, it covers itself. -/
theorem covers_insert (t : PatternTree) (p q : Pattern) :
    (t.insert p).covers q = true ↔ p.covers q = true ∨ t.covers q = true := by
  rw [insert]
  split
  · rename_i hcovers
    refine (or_iff_right_of_imp fun hpq => ?_).symm
    obtain ⟨x, hx, hxp⟩ := covers_iff.1 hcovers
    exact covers_iff.2 ⟨x, hx, covers_trans hxp hpq⟩
  · rw [covers_iff, covers_iff]
    constructor
    · rintro ⟨x, hx, hxq⟩
      rcases mem_place.1 hx with rfl | hx
      · exact .inl hxq
      · exact .inr ⟨x, (List.mem_filter.1 hx).1, hxq⟩
    · rintro (hpq | ⟨x, hx, hxq⟩)
      · exact ⟨p, mem_place.2 (.inl rfl), hpq⟩
      · by_cases hpx : p.covers x = true
        · exact ⟨p, mem_place.2 (.inl rfl), covers_trans hpx hxq⟩
        · refine ⟨x, mem_place.2 (.inr (List.mem_filter.2 ⟨hx, ?_⟩)), hxq⟩
          simpa using hpx

theorem Canonical.insertAll (ht : t.Canonical) (ps : List Pattern) :
    (t.insertAll ps).Canonical := by
  induction ps generalizing t with
  | nil => exact ht
  | cons p ps ih => exact ih (ht.insert p)

theorem covers_insertAll (t : PatternTree) (ps : List Pattern) (q : Pattern) :
    (t.insertAll ps).covers q = true ↔ (∃ p ∈ ps, p.covers q = true) ∨ t.covers q = true := by
  induction ps generalizing t with
  | nil => simp [PatternTree.insertAll]
  | cons p ps ih =>
    change ((t.insert p).insertAll ps).covers q = true ↔ _
    rw [ih, covers_insert]
    simp only [List.mem_cons, exists_eq_or_imp]
    exact or_left_comm.trans or_assoc.symm

theorem insert_last (ht : Canonical ⟨t.patterns ++ [p]⟩) : t.insert p = ⟨t.patterns ++ [p]⟩ := by
  obtain ⟨-, -, happart⟩ := List.pairwise_append.1 ht
  have happart : ∀ x ∈ t.patterns, Apart x p := fun x hx => happart x hx p List.mem_cons_self
  have hcovers : t.covers p = false := by
    rw [covers, List.any_eq_false]
    intro x hx
    simp [(happart x hx).left]
  have hfilter : t.patterns.filter (!p.covers ·) = t.patterns := by
    rw [List.filter_eq_self]
    intro x hx
    simp [(happart x hx).right]
  -- Nothing covers `p` or is covered by it, so it only has to be put at the end.
  have hplace (xs : List Pattern) (hxs : ∀ x ∈ xs, x < p) : place p xs = xs ++ [p] := by
    induction xs with
    | nil => rfl
    | cons x xs ih =>
      obtain ⟨hx, hxs⟩ := List.forall_mem_cons.1 hxs
      rw [place_cons, if_pos hx, ih hxs, List.cons_append]
  rw [insert, hcovers, hfilter, hplace _ fun x hx => (happart x hx).lt]
  rfl

/-- A canonical tree is built again by its own patterns. -/
theorem Canonical.ofList_patterns (ht : t.Canonical) : ofList t.patterns = t := by
  -- With `xs` in the tree already, the rest come in one after the other at the end.
  have hfrom (xs ys : List Pattern) (h : (xs ++ ys).Pairwise Apart) :
      PatternTree.insertAll ⟨xs⟩ ys = ⟨xs ++ ys⟩ := by
    induction ys generalizing xs with
    | nil => rw [List.append_nil]; rfl
    | cons y ys ih =>
      rw [List.append_cons] at h ⊢
      have hlast : PatternTree.insert ⟨xs⟩ y = ⟨xs ++ [y]⟩ := insert_last (List.pairwise_append.1 h).1
      rw [← ih _ h, ← hlast]
      rfl
  exact hfrom [] t.patterns ht

theorem canonical_ofHolders (p : Privilege) (u : User) (roles : List Role) :
    (ofHolders p u roles).Canonical := by
  have hfrom (t : PatternTree) (ht : t.Canonical) :
      (roles.foldl (fun t r => t.insertAll (r.grants.patternsGranting p)) t).Canonical := by
    induction roles generalizing t with
    | nil => exact ht
    | cons r roles ih => exact ih _ (ht.insertAll _)
  exact hfrom _ (canonical_empty.insertAll _)

/-- The tree of a user covers what the user's own grants cover or those of one of the roles. -/
theorem covers_ofHolders (p : Privilege) (u : User) (roles : List Role) (q : Pattern) :
    (ofHolders p u roles).covers q = true ↔
      (∃ x ∈ u.grants.patternsGranting p, x.covers q = true) ∨
        ∃ r ∈ roles, ∃ x ∈ r.grants.patternsGranting p, x.covers q = true := by
  have hfrom (t : PatternTree) :
      (roles.foldl (fun t r => t.insertAll (r.grants.patternsGranting p)) t).covers q = true ↔
        t.covers q = true ∨ ∃ r ∈ roles, ∃ x ∈ r.grants.patternsGranting p, x.covers q = true := by
    induction roles generalizing t with
    | nil => simp
    | cons r roles ih =>
      rw [List.foldl_cons, ih, covers_insertAll, or_comm (b := t.covers q = true), or_assoc]
      simp only [List.mem_cons, exists_eq_or_imp]
  rw [ofHolders, hfrom, covers_insertAll]
  simp [covers, empty]

end PatternTree

end Warden
