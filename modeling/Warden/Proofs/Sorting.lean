import Mathlib.Data.List.Sort
import Warden.Store.Basic

namespace Warden

namespace Sorting

section Order

variable {α : Type} [LE α] [LT α] [Std.IsLinearOrder α] [Std.LawfulOrderLT α] {xs : List α}

theorem pairwise_lt_mergeSort [DecidableLE α] (hnodup : xs.Nodup) :
    (xs.mergeSort (· ≤ ·)).Pairwise (· < ·) := by
  have hnodup' : (xs.mergeSort (· ≤ ·)).Nodup := (List.mergeSort_perm xs _).nodup_iff.2 hnodup
  exact (List.pairwise_mergeSort' (· ≤ ·) xs).imp₂ (fun _ _ => Std.lt_of_le_of_ne) hnodup'

end Order

section Repetitions

variable {α : Type} [BEq α]

theorem eraseRepsBy_loop (a : α) (xs seen : List α) :
    List.eraseRepsBy.loop (· == ·) a xs seen = seen.reverse ++ (a :: xs).eraseReps := by
  -- What was kept before stands in front whatever comes, so the induction is for all of it.
  induction xs generalizing a seen with
  | nil => simp [List.eraseRepsBy.loop, List.eraseReps, List.eraseRepsBy]
  | cons b xs ih =>
    change _ = seen.reverse ++ List.eraseRepsBy.loop (· == ·) a (b :: xs) []
    rw [List.eraseRepsBy.loop, List.eraseRepsBy.loop]
    cases hab : a == b with
    | true =>
      dsimp only
      rw [ih, ih, List.reverse_nil, List.nil_append]
    | false =>
      dsimp only
      rw [ih, ih, List.reverse_cons, List.append_assoc]
      rfl

theorem eraseReps_cons_cons (a b : α) (xs : List α) : (a :: b :: xs).eraseReps =
    if a == b then (a :: xs).eraseReps else a :: (b :: xs).eraseReps := by
  change List.eraseRepsBy.loop (· == ·) a (b :: xs) [] = _
  rw [List.eraseRepsBy.loop]
  cases hab : a == b with
  | true => rfl
  | false => exact eraseRepsBy_loop b xs [a]

variable [LawfulBEq α]

theorem mem_eraseReps {a : α} {xs : List α} : a ∈ xs.eraseReps ↔ a ∈ xs := by
  cases xs with
  | nil => rfl
  | cons b xs =>
    induction xs generalizing b with
    | nil => rfl
    | cons c xs ih =>
      rw [eraseReps_cons_cons]
      split
      · rename_i heq
        rw [ih, ← eq_of_beq heq]
        simp
      · rw [List.mem_cons, ih, List.mem_cons (b := b)]

/-- Where equals stand side by side, dropping the repeated ones leaves each of them once. -/
theorem pairwise_lt_eraseReps [LE α] [LT α] [Std.IsLinearOrder α] [Std.LawfulOrderLT α]
    {xs : List α} (h : xs.Pairwise (· ≤ ·)) : xs.eraseReps.Pairwise (· < ·) := by
  cases xs with
  | nil => exact .nil
  | cons a xs =>
    induction xs generalizing a with
    | nil => exact List.pairwise_singleton _ a
    | cons b xs ih =>
      obtain ⟨ha, hxs⟩ := List.pairwise_cons.1 h
      obtain ⟨hb, -⟩ := List.pairwise_cons.1 hxs
      rw [eraseReps_cons_cons]
      split
      · rename_i heq
        exact ih a (eq_of_beq heq ▸ hxs)
      -- The head is below its neighbour, and so below everything after it.
      · rename_i hne
        have hab : a < b := Std.lt_of_le_of_ne (ha b List.mem_cons_self) fun heq => by simp [heq] at hne
        refine List.pairwise_cons.2 ⟨fun c hc => ?_, ih b hxs⟩
        rcases List.mem_cons.1 (mem_eraseReps.1 hc) with rfl | hc
        · exact hab
        · exact Std.lt_of_lt_of_le hab (hb c hc)

theorem nodup_eraseDups (xs : List α) : xs.eraseDups.Nodup := by
  cases xs with
  | nil => exact List.nodup_nil
  | cons a xs =>
    rw [List.eraseDups_cons, List.nodup_cons]
    refine ⟨fun ha => ?_, nodup_eraseDups _⟩
    rw [List.mem_eraseDups, List.mem_filter] at ha
    simp at ha
termination_by xs.length
decreasing_by exact Nat.lt_succ_of_le (List.length_filter_le ..)

end Repetitions

end Sorting

theorem mem_sortNames {names : List String} {name : String} :
    name ∈ sortNames names ↔ name ∈ names := List.mem_mergeSort

theorem sortNames_ascending {names : List String} (h : names.Nodup) :
    (sortNames names).Pairwise (· < ·) := Sorting.pairwise_lt_mergeSort h

end Warden
