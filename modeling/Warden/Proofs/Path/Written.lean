import Warden.Codec.Grants

namespace Warden.Pattern

theorem parse_of_pieces {text : String} {p : Pattern} (h : pieces text = p.segments) :
    parse text = .ok p := by
  have hsound : flaw? (pieces text) = none := h ▸ p.formed.sound
  rw [parse]
  split
  · rename_i hflaw
    rw [hsound] at hflaw
    cases hflaw
  · exact congrArg Except.ok (segments_injective h)

theorem inner_cons {s : String} {rest : List String} :
    flaw?.inner (s :: rest) = none ↔
      s ≠ "" ∧ (s = anyRest → rest = []) ∧ flaw?.inner rest = none := by
  rw [flaw?.inner]
  by_cases hempty : s = ""
  · simp [hempty]
  by_cases hinner : s = anyRest ∧ rest ≠ []
  · rw [if_neg hempty, if_pos hinner]
    exact iff_of_false nofun fun h => hinner.2 (h.2.1 hinner.1)
  · rw [if_neg hempty, if_neg hinner]
    have hlast : s = anyRest → rest = [] := by simpa using hinner
    exact ⟨fun h => ⟨hempty, hlast, h⟩, fun h => h.2.2⟩

theorem ne_empty_of_inner {segments : List String} (h : flaw?.inner segments = none) {s : String}
    (hs : s ∈ segments) : s ≠ "" := by
  induction segments with
  | nil => cases hs
  | cons a rest ih =>
    obtain ⟨ha, -, hrest⟩ := inner_cons.1 h
    rcases List.mem_cons.1 hs with rfl | hs
    · exact ha
    · exact ih hrest hs

theorem Formed.head {segments : List String} (h : Formed segments) :
    segments.head? = some "root" := by
  have hsound := h.sound
  rw [flaw?] at hsound
  split at hsound
  · cases hsound
  · split at hsound
    · cases hsound
    · rename_i hroot
      simpa using hroot

theorem Formed.inner {segments : List String} (h : Formed segments) :
    flaw?.inner segments = none := by
  have hsound := h.sound
  rw [flaw?] at hsound
  split at hsound
  · cases hsound
  · split at hsound
    · cases hsound
    · exact hsound

theorem Formed.ne_empty {segments : List String} (h : Formed segments) {s : String}
    (hs : s ∈ segments) : s ≠ "" := ne_empty_of_inner h.inner hs

theorem split_text (p : Pattern) :
    Text.split '.' p.text.toList = p.segments.map String.toList := by
  rw [text, String.toList_ofList]
  apply Text.split_join
  · intro hnil
    have hhead := p.formed.head
    rw [List.map_eq_nil_iff] at hnil
    rw [hnil] at hhead
    cases hhead
  · intro piece hpiece
    obtain ⟨s, hs, rfl⟩ := List.mem_map.1 hpiece
    exact p.formed.undotted s hs

theorem head?_text (p : Pattern) : p.text.toList.head? = some 'r' := by
  have hhead := p.formed.head
  rw [text, String.toList_ofList]
  cases hs : p.segments with
  | nil =>
    rw [hs] at hhead
    cases hhead
  | cons s rest =>
    rw [hs] at hhead
    obtain rfl : s = "root" := by simpa using hhead
    cases rest with
    | nil => rfl
    | cons t rest => rfl

theorem getLast?_text (p : Pattern) {c : Char} (hc : p.text.toList.getLast? = some c) :
    Text.isBlank c = false := by
  cases hlast : p.segments.getLast? with
  | none =>
    have hhead := p.formed.head
    rw [List.getLast?_eq_none_iff.1 hlast] at hhead
    cases hhead
  | some s =>
    have hmem : s ∈ p.segments := List.mem_of_getLast? hlast
    have hsplit : (Text.split '.' p.text.toList).getLast? = some s.toList := by
      rw [split_text, List.getLast?_map, hlast]
      rfl
    have hne : s.toList ≠ [] := by
      intro hnil
      exact p.formed.ne_empty hmem (String.toList_injective hnil)
    rw [Text.getLast?_split hsplit hne] at hc
    exact p.formed.trimmed s c hlast hc

theorem pieces_text (p : Pattern) : pieces p.text = p.segments := by
  -- The text begins with `r` and its last segment is trimmed.
  have htrim : Text.trimChars p.text.toList = p.text.toList := by
    refine Text.trimChars_eq_self (fun c hc => ?_) fun c hc => p.getLast?_text hc
    rw [head?_text] at hc
    cases hc
    decide
  rw [pieces, htrim, split_text, List.map_map]
  refine (List.map_congr_left fun s _ => ?_).trans (List.map_id _)
  exact String.ofList_toList

theorem parse_text (p : Pattern) : parse p.text = .ok p := parse_of_pieces p.pieces_text

theorem ofJson_toJson (medium : Json.Medium) (p : Pattern) : ofJson medium p.toJson = .ok p := by
  simp only [ofJson, toJson, Json.decodeText, bind, Except.bind, parse_text, Json.checked]

end Warden.Pattern
