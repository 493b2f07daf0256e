import Warden.Action
import Warden.KeyMap

namespace Warden

/-- Names in ascending order, as often as they come. -/
def sortNames (names : List String) : List String := names.mergeSort (· ≤ ·)

/-- The operations of a place inside a state. A failing operation changes nothing. -/
structure Store (σ α : Type) where
  load : String → σ → Except Fault (Option α)
  save : α → σ → Except Fault σ
  delete : String → σ → Except Fault (Bool × σ)
  names : σ → Except Fault (List String)

namespace Store

variable {σ τ α : Type}

/-- The store on one part of a larger state. -/
def within (store : Store σ α) (part : τ → σ) (replace : σ → τ → τ) : Store τ α where
  load name t := store.load name (part t)
  save entry t := do return replace (← store.save entry (part t)) t
  delete name t := do
    let (removed, s) ← store.delete name (part t)
    return (removed, replace s t)
  names t := store.names (part t)

/-- Entries in memory, under the names they carry. -/
def memory (nameOf : α → String) : Store (KeyMap α) α where
  load name m := .ok (m.get? name)
  save entry m := .ok (m.insert (nameOf entry) entry)
  delete name m := .ok (m.contains name, m.erase name)
  names m := .ok m.keys

end Store

end Warden
