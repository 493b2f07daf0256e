import Warden.Path.Pattern

namespace Warden

structure PatternTree where
  patterns : List Pattern
  deriving DecidableEq

namespace PatternTree

def empty : PatternTree := ⟨[]⟩

instance : Inhabited PatternTree := ⟨empty⟩

def everything : PatternTree := ⟨[.everything]⟩

def covers (t : PatternTree) (p : Pattern) : Bool := t.patterns.any (·.covers p)

/-- Puts a pattern before the first one that is not smaller. -/
def place (p : Pattern) (ps : List Pattern) : List Pattern :=
  ps.takeWhile (· < p) ++ p :: ps.dropWhile (· < p)

def insert (t : PatternTree) (p : Pattern) : PatternTree :=
  if t.covers p then t else ⟨place p (t.patterns.filter (!p.covers ·))⟩

/-- Inserts a pattern unless it is covered. The answer tells whether it was inserted. -/
def add (t : PatternTree) (p : Pattern) : Bool × PatternTree := (!t.covers p, t.insert p)

def insertAll (t : PatternTree) (ps : List Pattern) : PatternTree := ps.foldl insert t

def ofList (ps : List Pattern) : PatternTree := empty.insertAll ps

def coversText (t : PatternTree) (text : String) : Except Fault Bool := do
  return t.covers (← Pattern.parse text)

theorem insert_of_covers {t : PatternTree} {p : Pattern} (h : t.covers p = true) :
    t.insert p = t := by
  simp [insert, h]

theorem mem_place {p q : Pattern} {ps : List Pattern} : q ∈ place p ps ↔ q = p ∨ q ∈ ps := by
  rw [place, List.mem_append, List.mem_cons, or_left_comm, ← List.mem_append,
    List.takeWhile_append_dropWhile]

end PatternTree

end Warden
