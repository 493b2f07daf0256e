import Warden.Fault
import Warden.Text.Split

namespace Warden

namespace Pattern

def anyName : String := "*"

def anyRest : String := "**"

/-- The first rule that the pieces of a trimmed text break. -/
def flaw? (segments : List String) : Option PathFlaw :=
  if segments = [""] then some .empty
  else if segments.head? ≠ some "root" then some .unrooted
  else inner segments
where
  inner : List String → Option PathFlaw
    | [] => none
    | s :: rest =>
      if s = "" then some .emptySegment
      else if s = anyRest ∧ rest ≠ [] then some .innerWildcard
      else inner rest

structure Formed (segments : List String) : Prop where
  sound : flaw? segments = none
  undotted : ∀ s ∈ segments, '.' ∉ s.toList
  trimmed : ∀ s c, segments.getLast? = some s → s.toList.getLast? = some c →
    Text.isBlank c = false

/-- The pieces of a text without the blanks around it. -/
def pieces (text : String) : List String :=
  (Text.split '.' (Text.trimChars text.toList)).map String.ofList

theorem formed_pieces {text : String} (h : flaw? (pieces text) = none) : Formed (pieces text) where
  sound := h
  undotted s hs := by
    obtain ⟨piece, hp, rfl⟩ := List.mem_map.1 hs
    simpa using Text.sep_notMem_of_mem_split hp
  trimmed s c hs hc := by
    rw [pieces, List.getLast?_map] at hs
    obtain ⟨piece, hp, rfl⟩ := Option.map_eq_some_iff.1 hs
    rw [String.toList_ofList] at hc
    have hne : piece ≠ [] := fun h => by simp [h] at hc
    exact Text.not_isBlank_of_getLast?_trimChars ((Text.getLast?_split hp hne).trans hc)

end Pattern

structure Pattern where
  segments : List String
  formed : Pattern.Formed segments
  deriving DecidableEq

namespace Pattern

theorem segments_injective {p q : Pattern} (h : p.segments = q.segments) : p = q := by
  obtain ⟨ps, hp⟩ := p
  obtain ⟨qs, hq⟩ := q
  obtain rfl : ps = qs := h
  rfl

def parse (text : String) : Except Fault Pattern :=
  match h : flaw? (pieces text) with
  | some flaw => .error (.illegalPath text flaw)
  | none => .ok ⟨pieces text, formed_pieces h⟩

/-- The pattern that covers every path. -/
def everything : Pattern where
  segments := ["root", anyRest]
  formed := {
    sound := by decide
    undotted := by decide
    trimmed := by
      intro s c hs hc
      obtain rfl : anyRest = s := by simpa using hs
      obtain rfl : '*' = c := by simpa [anyRest] using hc
      decide }

def length (p : Pattern) : Nat := p.segments.length

def text (p : Pattern) : String :=
  String.ofList (Text.join '.' (p.segments.map String.toList))

instance : Inhabited Pattern := ⟨everything⟩

instance : LT Pattern := ⟨fun p q => p.segments < q.segments⟩

instance (p q : Pattern) : Decidable (p < q) :=
  inferInstanceAs (Decidable (p.segments < q.segments))

/-- Compares names from the root down. -/
def coversSegments : List String → List String → Bool
  | [], [] => true
  | [], _ :: _ => false
  | a :: _, [] => a = anyRest
  | a :: as, b :: bs =>
    if a = anyRest then true
    else if b = anyRest then false
    else (a = anyName || a = b) && coversSegments as bs

/-- Every path that `q` stands for is one that `p` stands for. -/
def covers (p q : Pattern) : Bool := coversSegments p.segments q.segments

end Pattern

end Warden
