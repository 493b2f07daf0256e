import Warden.Text.Blank

namespace Warden.Text

def split (sep : Char) : List Char → List (List Char)
  | [] => [[]]
  | c :: cs =>
    if c = sep then [] :: split sep cs
    else
      match split sep cs with
      | [] => [[c]]
      | piece :: pieces => (c :: piece) :: pieces

def join (sep : Char) : List (List Char) → List Char
  | [] => []
  | [piece] => piece
  | piece :: pieces => piece ++ sep :: join sep pieces

theorem split_ne_nil (sep : Char) (cs : List Char) : split sep cs ≠ [] := by
  cases cs with
  | nil => simp [split]
  | cons c cs =>
    simp only [split]
    split
    · simp
    · split <;> simp

theorem join_cons {sep : Char} {pieces : List (List Char)} (piece : List Char)
    (h : pieces ≠ []) : join sep (piece :: pieces) = piece ++ sep :: join sep pieces := by
  cases pieces with
  | nil => exact absurd rfl h
  | cons _ _ => rfl

theorem join_split (sep : Char) (cs : List Char) : join sep (split sep cs) = cs := by
  induction cs with
  | nil => rfl
  | cons c cs ih =>
    simp only [split]
    split
    · rename_i h
      rw [join_cons _ (split_ne_nil sep cs), ih, h]
      rfl
    · split
      · rename_i h
        exact absurd h (split_ne_nil sep cs)
      · rename_i piece pieces h
        rw [h] at ih
        cases pieces with
        | nil => simpa [join] using ih
        | cons p ps => rw [join_cons _ (by simp)] at ih ⊢; simp [ih]

theorem sep_notMem_of_mem_split {sep : Char} {cs piece : List Char} (h : piece ∈ split sep cs) :
    sep ∉ piece := by
  induction cs generalizing piece with
  | nil => simp [split] at h; simp [h]
  | cons c cs ih =>
    simp only [split] at h
    split at h
    · rcases List.mem_cons.1 h with rfl | h
      · simp
      · exact ih h
    · rename_i hc
      split at h
      · simp only [List.mem_singleton] at h
        simp [h, Ne.symm hc]
      · rename_i p ps hsplit
        rcases List.mem_cons.1 h with rfl | h
        · have := ih (hsplit ▸ List.mem_cons_self)
          simp [this, Ne.symm hc]
        · exact ih (hsplit ▸ List.mem_cons_of_mem _ h)

theorem getLast?_split {sep : Char} {cs piece : List Char}
    (h : (split sep cs).getLast? = some piece) (hne : piece ≠ []) :
    cs.getLast? = piece.getLast? := by
  induction cs generalizing piece with
  | nil => simp [split] at h; exact absurd h hne
  | cons c cs ih =>
    have hcons : split sep cs = [piece] ∨ (split sep cs).getLast? = some piece →
        (c :: cs).getLast? = piece.getLast? := fun h' => by
      have := ih (h'.elim (fun h => by simp [h]) id) hne
      cases cs with
      | nil => simp [split] at h'; exact absurd h' hne
      | cons d ds => rw [List.getLast?_cons_cons, this]
    simp only [split] at h
    split at h
    · rw [List.getLast?_cons] at h
      cases hs : (split sep cs).getLast? with
      | none => exact absurd (List.getLast?_eq_none_iff.1 hs) (split_ne_nil sep cs)
      | some q => rw [hs] at h; exact hcons (.inr (by simpa [hs] using h))
    · split at h
      · rename_i hs
        exact absurd hs (split_ne_nil sep cs)
      · rename_i q qs hs
        cases qs with
        | nil =>
          have hp : piece = c :: q := by simpa using h.symm
          have hq : q = cs := by simpa [hs, join] using join_split sep cs
          rw [hp, hq]
        | cons r rs =>
          refine hcons (.inr ?_)
          rw [hs, List.getLast?_cons_cons]
          rwa [List.getLast?_cons_cons] at h

theorem split_of_notMem {sep : Char} {cs : List Char} (h : sep ∉ cs) : split sep cs = [cs] := by
  induction cs with
  | nil => rfl
  | cons c cs ih =>
    rw [List.mem_cons, not_or] at h
    rw [split, if_neg (Ne.symm h.1), ih h.2]

theorem split_append {sep : Char} {cs : List Char} (h : sep ∉ cs) (rest : List Char) :
    split sep (cs ++ sep :: rest) = cs :: split sep rest := by
  induction cs with
  | nil => rw [List.nil_append, split, if_pos rfl]
  | cons c cs ih =>
    rw [List.mem_cons, not_or] at h
    rw [List.cons_append, split, if_neg (Ne.symm h.1), ih h.2]

/-- Cutting what was joined gives the pieces back. -/
theorem split_join {sep : Char} {pieces : List (List Char)} (hne : pieces ≠ [])
    (h : ∀ piece ∈ pieces, sep ∉ piece) : split sep (join sep pieces) = pieces := by
  induction pieces with
  | nil => exact absurd rfl hne
  | cons piece pieces ih =>
    obtain ⟨hpiece, hpieces⟩ := List.forall_mem_cons.1 h
    cases pieces with
    | nil => exact split_of_notMem hpiece
    | cons next rest =>
      rw [join_cons _ (List.cons_ne_nil next rest), split_append hpiece,
        ih (List.cons_ne_nil next rest) hpieces]

theorem trimChars_eq_self {cs : List Char} (hhead : ∀ c, cs.head? = some c → isBlank c = false)
    (hlast : ∀ c, cs.getLast? = some c → isBlank c = false) : trimChars cs = cs := by
  have hdrop (ds : List Char) (h : ∀ c, ds.head? = some c → isBlank c = false) :
      ds.dropWhile isBlank = ds := by
    cases ds with
    | nil => rfl
    | cons d ds => rw [List.dropWhile_cons_of_neg (Bool.eq_false_iff.1 (h d rfl))]
  rw [trimChars, hdrop cs hhead, hdrop cs.reverse, List.reverse_reverse]
  intro c hc
  rw [List.head?_reverse] at hc
  exact hlast c hc

theorem not_isBlank_of_getLast?_trimChars {cs : List Char} {c : Char}
    (h : (trimChars cs).getLast? = some c) : isBlank c = false := by
  rw [trimChars, List.getLast?_reverse] at h
  have := List.head?_dropWhile_not isBlank (cs.dropWhile isBlank).reverse
  rw [h] at this
  simpa using this

end Warden.Text
