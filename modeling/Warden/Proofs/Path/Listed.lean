import Warden.Proofs.Json.Ensures
import Warden.Proofs.Path.Blob
import Warden.Proofs.Path.Canonical

namespace Warden

namespace Pattern

open Json

variable {medium : Medium} {items : List Json} {ps : List Pattern}

theorem ofJson_eq_ok {j : Json} {p : Pattern} :
    ofJson medium j = .ok p ↔ ∃ text, j = .string text ∧ parse text = .ok p := by
  constructor
  · intro h
    obtain ⟨text, htext, h⟩ := Fault.of_bind_ok h
    cases j with
    | string text' =>
      obtain rfl : text' = text := Except.ok.inj htext
      exact ⟨text', rfl, of_checked h⟩
    | _ => cases htext
  · rintro ⟨text, rfl, hparse⟩
    change checked (parse text) = .ok p
    rw [hparse, checked]

/-- The members of a list that are read as patterns are texts that are. -/
theorem map_ofJson_eq : items.map (ofJson medium) = ps.map .ok ↔
    ∃ texts : List String, items = texts.map .string ∧ texts.map parse = ps.map .ok := by
  induction items generalizing ps with
  | nil =>
    constructor
    · intro h
      exact ⟨[], rfl, h⟩
    · rintro ⟨texts, hitems, h⟩
      rw [List.map_eq_nil_iff.1 hitems.symm] at h
      exact h
  | cons j items ih =>
    constructor
    · intro h
      obtain ⟨p, ps, rfl, hp, hps⟩ := List.map_eq_cons_iff.1 h.symm
      obtain ⟨text, rfl, hparse⟩ := ofJson_eq_ok.1 hp.symm
      obtain ⟨texts, rfl, hparses⟩ := ih.1 hps.symm
      exact ⟨text :: texts, rfl, by rw [List.map_cons, List.map_cons, hparse, hparses]⟩
    · rintro ⟨texts, hitems, h⟩
      obtain ⟨text, texts, rfl, rfl, hrest⟩ := List.map_eq_cons_iff.1 hitems.symm
      obtain ⟨p, ps, rfl, hp, hps⟩ := List.map_eq_cons_iff.1 h.symm
      rw [List.map_cons, List.map_cons, ofJson_eq_ok.2 ⟨text, rfl, hp.symm⟩]
      rw [ih.2 ⟨texts, hrest.symm, hps.symm⟩]

theorem decodeList_ofJson {j : Json} : decodeList ofJson medium j = .ok ps ↔
    ∃ texts : List String, j = .array (texts.map .string) ∧ texts.map parse = ps.map .ok := by
  constructor
  · intro h
    cases j with
    | array items =>
      obtain ⟨texts, rfl, hparse⟩ := map_ofJson_eq.1 (mapM_eq_ok.1 h)
      exact ⟨texts, rfl, hparse⟩
    | _ => cases h
  · rintro ⟨texts, rfl, hparse⟩
    exact mapM_eq_ok.2 (map_ofJson_eq.2 ⟨texts, rfl, hparse⟩)

end Pattern

namespace PatternTree

open Json

/-- The patterns that bytes list: none if there are no bytes, and otherwise those that are read of the
texts of an array, which is all that the bytes hold. -/
inductive Lists : Text.Bytes → List Pattern → Prop
  | nothing : Lists [] []
  | array {bytes} {texts : List String} {ps : List Pattern} (hne : bytes ≠ [])
      (hread : read (Text.chars bytes) = ⟨.array (texts.map .string), true⟩)
      (hparse : texts.map Pattern.parse = ps.map .ok) : Lists bytes ps

variable {bytes : Text.Bytes} {ps : List Pattern} {t : PatternTree}

theorem ofBytes_of_ne_nil (h : bytes ≠ []) : ofBytes bytes =
    (decodeChars (decodeList Pattern.ofJson) (Text.chars bytes)).map ofList :=
  if_neg (mt List.isEmpty_iff.1 h)

theorem ofBytes_of_lists (h : Lists bytes ps) : ofBytes bytes = .ok (ofList ps) := by
  cases h with
  | nothing => rfl
  | array hne hread hparse =>
    have hdecode : decodeChars (decodeList Pattern.ofJson) (Text.chars bytes) = .ok ps := by
      rw [decodeChars_eq_ok, hread]
      exact ⟨Pattern.decodeList_ofJson.2 ⟨_, rfl, hparse⟩, rfl⟩
    rw [ofBytes_of_ne_nil hne, hdecode]
    rfl

theorem lists_of_ofBytes (h : ofBytes bytes = .ok t) : ∃ ps, Lists bytes ps ∧ t = ofList ps := by
  by_cases hne : bytes = []
  · subst hne
    exact ⟨[], .nothing, (Except.ok.inj h).symm⟩
  · rw [ofBytes_of_ne_nil hne] at h
    obtain ⟨ps, hdecode, rfl⟩ := Fault.of_map_ok h
    obtain ⟨hvalue, hclean⟩ := decodeChars_eq_ok.1 hdecode
    obtain ⟨texts, harray, hparse⟩ := Pattern.decodeList_ofJson.1 hvalue
    refine ⟨ps, .array hne ?_ hparse, rfl⟩
    rw [← harray, ← hclean]

/-- An array with a member that is no text of a pattern lists no patterns at all. -/
theorem not_lists_of_illegal {items : List Json}
    (hitems : (read (Text.chars bytes)).value = .array items) {j : Json} (hj : j ∈ items)
    (hillegal : ∀ text p, j = .string text → Pattern.parse text ≠ .ok p) : ¬ Lists bytes ps := by
  intro h
  cases h with
  | nothing =>
    rw [show Text.chars [] = [] from Text.chars_bytes ""] at hitems
    cases hitems
  | @array _ texts ps hne hread hparse =>
    rw [hread] at hitems
    obtain rfl := Json.array.inj hitems
    obtain ⟨text, htext, rfl⟩ := List.mem_map.1 hj
    have hmem : Pattern.parse text ∈ ps.map .ok := hparse ▸ List.mem_map_of_mem htext
    obtain ⟨p, -, hp⟩ := List.mem_map.1 hmem
    exact hillegal text p rfl hp.symm

/-- However a tree was filled, its bytes are read as the tree. Bytes that list patterns are read as
the tree that is collected from them, and no other bytes are read. Such a tree ascends, no pattern of it
covers another, its own bytes are read as itself, and it covers what one of the listed patterns covers.
One member that is no pattern is enough for a list to be refused. -/
theorem ofBytes_exact :
    (∀ f : Filling, ofBytes f.tree.toBytes = .ok f.tree) ∧
    (∀ bytes ps, Lists bytes ps → ofBytes bytes = .ok (ofList ps)) ∧
    (∀ bytes t, ofBytes bytes = .ok t → ∃ ps, Lists bytes ps ∧ t = ofList ps ∧
      t.patterns.Pairwise (· < ·) ∧
      (∀ p ∈ t.patterns, ∀ q ∈ t.patterns, p ≠ q → p.covers q = false) ∧
      ofBytes t.toBytes = .ok t ∧
      ∀ q, t.covers q = true ↔ ∃ p ∈ ps, p.covers q = true) ∧
    ∀ bytes items, (read (Text.chars bytes)).value = .array items →
      (∃ j ∈ items, ∀ text p, j = .string text → Pattern.parse text ≠ .ok p) →
        ∃ fault, ofBytes bytes = .error fault := by
  refine ⟨fun f => ?_, fun bytes ps => ofBytes_of_lists, fun bytes t h => ?_, ?_⟩
  · rw [f.tree_eq]
    exact ofBytes_toBytes (canonical_ofList f.patterns)
  · obtain ⟨ps, hlists, rfl⟩ := lists_of_ofBytes h
    have hcanonical : (ofList ps).Canonical := canonical_ofList ps
    exact ⟨ps, hlists, rfl, hcanonical.imp Apart.lt,
      fun p hp q hq hne => hcanonical.not_covers hp hq hne, ofBytes_toBytes hcanonical,
      fun q => covers_ofList⟩
  · rintro bytes items hitems ⟨j, hj, hillegal⟩
    cases h : ofBytes bytes with
    | error fault => exact ⟨fault, rfl⟩
    | ok t =>
      obtain ⟨ps, hlists, -⟩ := lists_of_ofBytes h
      exact absurd hlists (not_lists_of_illegal hitems hj hillegal)

end PatternTree

end Warden
