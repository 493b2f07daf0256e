import Mathlib.Data.List.TakeWhile
import Warden.Proofs.Path.Written

namespace Warden

namespace Text

/-- The middle of a text: nothing but blanks around it, and none at its own ends. -/
structure Trims (cs middle : List Char) : Prop where
  around : ∃ before after, cs = before ++ (middle ++ after) ∧ before.all isBlank = true ∧
    after.all isBlank = true
  head : ∀ c, middle.head? = some c → isBlank c = false
  last : ∀ c, middle.getLast? = some c → isBlank c = false

theorem trims_trimChars (cs : List Char) : Trims cs (trimChars cs) := by
  have hstart := List.takeWhile_append_dropWhile (p := isBlank) (l := cs)
  generalize hrest : cs.dropWhile isBlank = rest at hstart
  have hend : trimChars cs ++ (rest.reverse.takeWhile isBlank).reverse = rest := by
    rw [trimChars, hrest, ← List.reverse_append, List.takeWhile_append_dropWhile,
      List.reverse_reverse]
  refine ⟨⟨cs.takeWhile isBlank, (rest.reverse.takeWhile isBlank).reverse, ?_, List.all_takeWhile,
    ?_⟩, fun c hc => ?_, fun c => not_isBlank_of_getLast?_trimChars⟩
  · rw [hend, hstart]
  · rw [List.all_reverse, List.all_takeWhile]
  · -- The trimmed text begins as the text without its first blanks does.
    have hhead : rest.head? = some c := by
      rw [← hend, List.head?_append, hc]
      rfl
    have hnot := List.head?_dropWhile_not isBlank cs
    rw [hrest, hhead] at hnot
    exact hnot

theorem trimChars_append_right {after : List Char} (h : after.all isBlank = true)
    (cs : List Char) : trimChars (cs ++ after) = trimChars cs := by
  rw [trimChars, List.dropWhile_append]
  split
  · rename_i hnil
    rw [List.dropWhile_eq_nil_iff.2 (List.all_eq_true.1 h), trimChars, List.isEmpty_iff.1 hnil]
  · rw [List.reverse_append, List.dropWhile_append_of_pos, trimChars]
    intro c hc
    exact List.all_eq_true.1 h c (List.mem_reverse.1 hc)

theorem trims_iff {cs middle : List Char} : Trims cs middle ↔ trimChars cs = middle := by
  constructor
  · rintro ⟨⟨before, after, rfl, hbefore, hafter⟩, hhead, hlast⟩
    have hdrop : trimChars (before ++ (middle ++ after)) = trimChars (middle ++ after) := by
      rw [trimChars, List.dropWhile_append_of_pos (List.all_eq_true.1 hbefore), ← trimChars]
    rw [hdrop, trimChars_append_right hafter, trimChars_eq_self hhead hlast]
  · rintro rfl
    exact trims_trimChars cs

end Text

namespace Pattern

def trimmed (raw : String) : String := String.ofList (Text.trimChars raw.toList)

structure Cuts (text : String) (segments : List String) : Prop where
  some : segments ≠ []
  undotted : ∀ s ∈ segments, '.' ∉ s.toList
  joined : Text.join '.' (segments.map String.toList) = text.toList

theorem toList_pieces (raw : String) :
    (pieces raw).map String.toList = Text.split '.' (trimmed raw).toList := by
  simp [pieces, trimmed, Function.comp_def]

theorem cuts_pieces (raw : String) : Cuts (trimmed raw) (pieces raw) where
  some hnil := by
    have hsplit := toList_pieces raw
    rw [hnil] at hsplit
    exact Text.split_ne_nil '.' _ hsplit.symm
  undotted s hs := by
    have hmem : s.toList ∈ (pieces raw).map String.toList := List.mem_map_of_mem hs
    rw [toList_pieces] at hmem
    exact Text.sep_notMem_of_mem_split hmem
  joined := by rw [toList_pieces, Text.join_split]

/-- Only the empty text is one segment with nothing in it. -/
theorem pieces_eq_singleton_empty {raw : String} : pieces raw = [""] ↔ trimmed raw = "" := by
  constructor
  · intro h
    have hjoined := (cuts_pieces raw).joined
    rw [h] at hjoined
    exact String.toList_injective hjoined.symm
  · intro h
    have hsplit := toList_pieces raw
    rw [h] at hsplit
    exact (List.map_inj_right fun _ _ => String.toList_injective).1 hsplit

structure Grammatical (segments : List String) : Prop where
  root : segments.head? = some "root"
  filled : ∀ s ∈ segments, s ≠ ""
  closing : ∀ i, segments[i]? = some anyRest → i + 1 = segments.length

inductive Offends (segments : List String) (i : Nat) : PathFlaw → Prop
  | emptySegment (h : segments[i]? = some "") : Offends segments i .emptySegment
  | innerWildcard (h : segments[i]? = some anyRest) (hi : i + 1 < segments.length) :
      Offends segments i .innerWildcard

/-- The rule that is broken first: by the text, then by its first segment, then from the left. -/
inductive FirstFlaw (text : String) (segments : List String) : PathFlaw → Prop
  | empty (htext : text = "") : FirstFlaw text segments .empty
  | unrooted (htext : text ≠ "") (hroot : segments.head? ≠ some "root") :
      FirstFlaw text segments .unrooted
  | segment {flaw} (htext : text ≠ "") (hroot : segments.head? = some "root") (i : Nat)
      (h : Offends segments i flaw) (hfirst : ∀ j < i, ∀ other, ¬ Offends segments j other) :
      FirstFlaw text segments flaw

def offence? (s : String) (closing : Bool) : Option PathFlaw :=
  if s = "" then some .emptySegment
  else if s = anyRest ∧ closing = false then some .innerWildcard
  else none

section Scan

variable {segments rest : List String} {s : String} {flaw : PathFlaw} {i : Nat}

theorem inner_cons_eq :
    flaw?.inner (s :: rest) = (offence? s rest.isEmpty).or (flaw?.inner rest) := by
  rw [flaw?.inner, offence?]
  by_cases hempty : s = ""
  · rw [if_pos hempty, if_pos hempty]
    rfl
  · rw [if_neg hempty, if_neg hempty]
    simp only [ne_eq, List.isEmpty_eq_false_iff]
    split <;> rfl

theorem not_offends_nil : ¬ Offends [] i flaw := by
  rintro (h | ⟨h, -⟩) <;> cases h

theorem offends_zero : Offends (s :: rest) 0 flaw ↔ offence? s rest.isEmpty = some flaw := by
  rw [offence?]
  constructor
  · rintro (h | ⟨h, hi⟩)
    · rw [if_pos (Option.some.inj h)]
    · have hrest : rest.isEmpty = false :=
        List.isEmpty_eq_false_iff.2 (List.length_pos_iff.1 (Nat.lt_of_succ_lt_succ hi))
      rw [Option.some.inj h, if_neg (by decide), if_pos ⟨rfl, hrest⟩]
  · intro h
    split at h
    · rename_i hempty
      cases h
      exact .emptySegment (congrArg some hempty)
    · split at h
      · rename_i hinner
        cases h
        have hlength : 0 < rest.length :=
          List.length_pos_iff.2 (List.isEmpty_eq_false_iff.1 hinner.2)
        exact .innerWildcard (congrArg some hinner.1) (Nat.succ_lt_succ hlength)
      · cases h

theorem offends_succ : Offends (s :: rest) (i + 1) flaw ↔ Offends rest i flaw := by
  constructor
  · rintro (h | ⟨h, hi⟩)
    · exact .emptySegment h
    · exact .innerWildcard h (Nat.lt_of_succ_lt_succ hi)
  · rintro (h | ⟨h, hi⟩)
    · exact .emptySegment h
    · exact .innerWildcard h (Nat.succ_lt_succ hi)

theorem not_offends_zero :
    (∀ other, ¬ Offends (s :: rest) 0 other) ↔ offence? s rest.isEmpty = none := by
  simp only [offends_zero, Option.eq_none_iff_forall_ne_some, ne_eq]

/-- The scan passes segments that break no rule. -/
theorem inner_eq_none : flaw?.inner segments = none ↔ ∀ i flaw, ¬ Offends segments i flaw := by
  induction segments with
  | nil => exact ⟨fun _ _ _ => not_offends_nil, fun _ => rfl⟩
  | cons s rest ih =>
    rw [inner_cons_eq, Option.or_eq_none_iff, ← not_offends_zero, ih]
    constructor
    · rintro ⟨hzero, hrest⟩ (_ | i) flaw h
      · exact hzero flaw h
      · exact hrest i flaw (offends_succ.1 h)
    · intro h
      exact ⟨h 0, fun i flaw hi => h (i + 1) flaw (offends_succ.2 hi)⟩

/-- The scan stops at the first segment that breaks a rule. -/
theorem inner_eq_some : flaw?.inner segments = some flaw ↔
    ∃ i, Offends segments i flaw ∧ ∀ j < i, ∀ other, ¬ Offends segments j other := by
  induction segments with
  | nil => exact iff_of_false nofun fun ⟨_, h, _⟩ => not_offends_nil h
  | cons s rest ih =>
    rw [inner_cons_eq, Option.or_eq_some_iff, ← offends_zero, ← not_offends_zero, ih]
    constructor
    · rintro (hzero | ⟨hzero, i, hi, hfirst⟩)
      · exact ⟨0, hzero, nofun⟩
      · refine ⟨i + 1, offends_succ.2 hi, ?_⟩
        rintro (_ | j) hj other h
        · exact hzero other h
        · exact hfirst j (Nat.lt_of_succ_lt_succ hj) other (offends_succ.1 h)
    · rintro ⟨_ | i, hi, hfirst⟩
      · exact .inl hi
      · refine .inr ⟨hfirst 0 (Nat.succ_pos i), i, offends_succ.1 hi, fun j hj other h => ?_⟩
        exact hfirst (j + 1) (Nat.succ_lt_succ hj) other (offends_succ.2 h)

theorem grammatical_iff :
    Grammatical segments ↔ segments.head? = some "root" ∧ flaw?.inner segments = none := by
  rw [inner_eq_none]
  constructor
  · intro h
    refine ⟨h.root, fun i flaw hi => ?_⟩
    rcases hi with hempty | ⟨hany, hlt⟩
    · exact h.filled "" (List.mem_of_getElem? hempty) rfl
    · exact Nat.ne_of_lt hlt (h.closing i hany)
  · rintro ⟨hroot, h⟩
    refine ⟨hroot, fun s hs hempty => ?_, fun i hany => ?_⟩
    · obtain ⟨i, hi⟩ := List.getElem?_of_mem hs
      exact h i _ (.emptySegment (hempty ▸ hi))
    · have hlt : i < segments.length := (List.getElem?_eq_some_iff.1 hany).1
      refine Nat.le_antisymm hlt (Nat.le_of_not_lt fun hinner => ?_)
      exact h i _ (.innerWildcard hany hinner)

end Scan

/-- The rules as they are checked by place: there is no result where a place is missing or a number
falls below zero. -/
def placewise (text : String) (segments : List String) : Option (Option PathFlaw) :=
  if text = "" then some (some .empty)
  else do
    if (← segments[0]?) ≠ "root" then return some .unrooted
    let last ← if 1 ≤ segments.length then some (segments.length - 1) else none
    return segments.zipIdx.findSome? fun x => offence? x.1 (x.2 == last)

theorem findSome?_offence? (segments : List String) {start last : Nat}
    (h : start + segments.length = last + 1) :
    (segments.zipIdx start).findSome? (fun x => offence? x.1 (x.2 == last)) =
      flaw?.inner segments := by
  induction segments generalizing start with
  | nil => rfl
  | cons s rest ih =>
    have hclosing : (start == last) = rest.isEmpty := by
      rw [List.length_cons] at h
      cases rest with
      | nil => simpa using h
      | cons t rest => simp at h ⊢; omega
    have hrest : start + 1 + rest.length = last + 1 := by
      rw [List.length_cons] at h
      omega
    rw [List.zipIdx_cons, List.findSome?_cons, inner_cons_eq, hclosing, ih hrest]
    cases offence? s rest.isEmpty <;> rfl

variable {raw : String} {p : Pattern} {fault : Fault} {flaw : PathFlaw}

theorem flaw?_pieces (raw : String) : flaw? (pieces raw) =
    if trimmed raw = "" then some .empty
    else if (pieces raw).head? ≠ some "root" then some .unrooted
    else flaw?.inner (pieces raw) := by
  simp only [flaw?, pieces_eq_singleton_empty]

theorem flaw?_eq_none :
    flaw? (pieces raw) = none ↔ trimmed raw ≠ "" ∧ Grammatical (pieces raw) := by
  rw [flaw?_pieces, grammatical_iff]
  by_cases htext : trimmed raw = ""
  · rw [if_pos htext]
    exact iff_of_false nofun fun h => h.1 htext
  by_cases hroot : (pieces raw).head? = some "root"
  · rw [if_neg htext, if_neg (not_not_intro hroot)]
    exact ⟨fun h => ⟨htext, hroot, h⟩, fun h => h.2.2⟩
  · rw [if_neg htext, if_pos hroot]
    exact iff_of_false nofun fun h => hroot h.2.1

theorem flaw?_eq_some :
    flaw? (pieces raw) = some flaw ↔ FirstFlaw (trimmed raw) (pieces raw) flaw := by
  rw [flaw?_pieces]
  constructor
  · intro h
    split at h
    · rename_i htext
      cases h
      exact .empty htext
    · rename_i htext
      split at h
      · rename_i hroot
        cases h
        exact .unrooted htext hroot
      · rename_i hroot
        obtain ⟨i, hi, hfirst⟩ := inner_eq_some.1 h
        exact .segment htext (Decidable.not_not.1 hroot) i hi hfirst
  · rintro (htext | ⟨htext, hroot⟩ | ⟨htext, hroot, i, hi, hfirst⟩)
    · rw [if_pos htext]
    · rw [if_neg htext, if_pos hroot]
    · rw [if_neg htext, if_neg (not_not_intro hroot)]
      exact inner_eq_some.2 ⟨i, hi, hfirst⟩

theorem placewise_pieces (raw : String) :
    placewise (trimmed raw) (pieces raw) = some (flaw? (pieces raw)) := by
  rw [flaw?_pieces, placewise]
  split
  · rfl
  · -- There is a first segment, so a last one as well.
    obtain ⟨s, rest, hcons⟩ := List.exists_cons_of_ne_nil (cuts_pieces raw).some
    have hscan : (s :: rest).zipIdx.findSome? (fun x => offence? x.1 (x.2 == rest.length)) =
        flaw?.inner (s :: rest) := findSome?_offence? (s :: rest) (Nat.zero_add _)
    rw [hcons]
    change (if s ≠ "root" then some (some PathFlaw.unrooted) else
      some ((s :: rest).zipIdx.findSome? fun x => offence? x.1 (x.2 == rest.length))) = _
    rw [hscan, List.head?_cons]
    simp only [ne_eq, Option.some.injEq]
    split <;> rfl

theorem parse_eq_ok : parse raw = .ok p ↔ flaw? (pieces raw) = none ∧ p.segments = pieces raw := by
  constructor
  · intro h
    rw [parse] at h
    split at h
    · cases h
    · rename_i hflaw
      cases h
      exact ⟨hflaw, rfl⟩
  · rintro ⟨-, hsegments⟩
    exact parse_of_pieces hsegments.symm

theorem parse_eq_error : parse raw = .error fault ↔
    ∃ flaw, flaw? (pieces raw) = some flaw ∧ fault = .illegalPath raw flaw := by
  rw [parse]
  constructor
  · intro h
    split at h
    · rename_i flaw hflaw
      cases h
      exact ⟨flaw, hflaw, rfl⟩
    · cases h
  · rintro ⟨flaw, hflaw, rfl⟩
    split
    · rename_i other hother
      obtain rfl : other = flaw := Option.some.inj (hother.symm.trans hflaw)
      rfl
    · rename_i hnone
      cases hnone.symm.trans hflaw

theorem text_of_segments (h : p.segments = pieces raw) : p.text = trimmed raw := by
  rw [text, h, (cuts_pieces raw).joined, String.ofList_toList]

theorem text_injective {p q : Pattern} (h : p.text = q.text) : p = q :=
  Except.ok.inj ((p.parse_text.symm.trans (congrArg parse h)).trans q.parse_text)

/-- A text is read as a pattern when it is that pattern's text with blanks around it. -/
theorem parse_eq_ok_iff_trims : parse raw = .ok p ↔ Text.Trims raw.toList p.text.toList := by
  rw [Text.trims_iff]
  constructor
  · intro h
    rw [text_of_segments (parse_eq_ok.1 h).2, trimmed, String.toList_ofList]
  · intro h
    refine parse_of_pieces ?_
    rw [pieces, h, split_text]
    simp

/-- What reading a text comes to, with the text that is left of it and the segments of that. -/
structure Exact (raw text : String) (segments : List String) : Prop where
  trims : Text.Trims raw.toList text.toList
  cuts : Cuts text segments
  accepted : (∃ p, parse raw = .ok p) ↔ text ≠ "" ∧ Grammatical segments
  kept : ∀ p, parse raw = .ok p → p.segments = segments ∧ p.text = text ∧ parse p.text = .ok p
  written : ∀ p, parse raw = .ok p ↔ Text.Trims raw.toList p.text.toList
  refused : ∀ fault, parse raw = .error fault ↔
    ∃ flaw, FirstFlaw text segments flaw ∧ fault = .illegalPath raw flaw
  placed : placewise text segments = some (flaw? segments)

/-- A text is read as a pattern when what is left of it follows the rules, and the pattern is written as
just that; otherwise it is refused for the first rule that it breaks. No two patterns are written
alike. -/
theorem parse_exact :
    (∀ raw, Exact raw (trimmed raw) (pieces raw)) ∧ ∀ p q : Pattern, p.text = q.text → p = q := by
  refine ⟨fun raw => ?_, fun p q => text_injective⟩
  have htrims : Text.Trims raw.toList (trimmed raw).toList := by
    rw [trimmed, String.toList_ofList]
    exact Text.trims_trimChars raw.toList
  have haccepted : (∃ p, parse raw = .ok p) ↔ flaw? (pieces raw) = none :=
    ⟨fun ⟨p, h⟩ => (parse_eq_ok.1 h).1,
      fun h => ⟨⟨pieces raw, formed_pieces h⟩, parse_eq_ok.2 ⟨h, rfl⟩⟩⟩
  exact {
    trims := htrims
    cuts := cuts_pieces raw
    accepted := haccepted.trans flaw?_eq_none
    kept := fun p h => ⟨(parse_eq_ok.1 h).2, text_of_segments (parse_eq_ok.1 h).2, p.parse_text⟩
    written := fun p => parse_eq_ok_iff_trims
    refused := fun fault => by simp only [parse_eq_error, flaw?_eq_some]
    placed := placewise_pieces raw }

example : parse " root..d1.** " = .error (.illegalPath " root..d1.** " .emptySegment) := by rfl

end Pattern

end Warden
