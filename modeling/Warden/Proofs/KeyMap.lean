import Mathlib.Data.List.Sort
import Warden.KeyMap

namespace Warden

namespace Entries

variable {α : Type}

theorem find?_of_mem {entries : List (String × α)} (h : Ascending entries) {e : String × α}
    (he : e ∈ entries) : find? e.1 entries = some e.2 := by
  induction entries with
  | nil => cases he
  | cons a rest ih =>
    obtain ⟨ha, hrest⟩ := List.pairwise_cons.1 h
    rw [find?]
    rcases List.mem_cons.1 he with rfl | he
    · exact if_pos rfl
    · rw [if_neg (String.ne_of_lt (ha e he)), ih hrest he]

theorem mem_iff_find? {entries : List (String × α)} (h : Ascending entries) {e : String × α} :
    e ∈ entries ↔ find? e.1 entries = some e.2 :=
  ⟨find?_of_mem h, mem_of_find?⟩

end Entries

namespace KeyMap

variable {α : Type} {m : KeyMap α} {key : String} {value : α}

theorem nodup_keys (m : KeyMap α) : m.keys.Nodup := m.keys_ascending.imp String.ne_of_lt

theorem get?_of_mem {e : String × α} (he : e ∈ m.entries) : m.get? e.1 = some e.2 :=
  Entries.find?_of_mem m.ascending he

theorem ext_get? {m m' : KeyMap α} (h : ∀ key, m.get? key = m'.get? key) : m = m' := by
  have hirrefl : Std.Irrefl fun a b : String × α => a.1 < b.1 :=
    ⟨fun a => String.lt_irrefl a.1⟩
  have hantisymm : Std.Antisymm fun a b : String × α => a.1 < b.1 :=
    ⟨fun _ _ hab hba => absurd hba (String.lt_asymm hab)⟩
  have hentries : m.entries = m'.entries := by
    refine m.ascending.eq_of_mem_iff m'.ascending fun e => ?_
    rw [Entries.mem_iff_find? m.ascending, Entries.mem_iff_find? m'.ascending]
    exact Eq.congr_left (h e.1)
  obtain ⟨entries, ascending⟩ := m
  obtain ⟨entries', ascending'⟩ := m'
  obtain rfl : entries = entries' := hentries
  rfl

theorem insert_eq_self (h : m.get? key = some value) : m.insert key value = m := by
  refine ext_get? fun k => ?_
  rw [get?_insert]
  split
  · rename_i hk
    rw [hk, h]
  · rfl

theorem insert_insert (m : KeyMap α) (key : String) (value value' : α) :
    (m.insert key value).insert key value' = m.insert key value' := by
  refine ext_get? fun k => ?_
  rw [get?_insert, get?_insert, get?_insert]
  split <;> rfl

theorem erase_insert (m : KeyMap α) (key : String) (value : α) :
    (m.insert key value).erase key = m.erase key := by
  refine ext_get? fun k => ?_
  rw [get?_erase, get?_erase, get?_insert]
  split <;> rfl

theorem contains_erase (m : KeyMap α) (key k : String) :
    (m.erase key).contains k = (!decide (k = key) && m.contains k) := by
  rw [contains, get?_erase]
  by_cases h : k = key <;> simp [h, contains]

theorem isEmpty_of_get? (h : m.get? key = some value) : m.isEmpty = false := by
  refine Bool.eq_false_iff.2 fun he => ?_
  rw [get?_of_isEmpty he] at h
  cases h

theorem isEmpty_insert (m : KeyMap α) (key : String) (value : α) :
    (m.insert key value).isEmpty = false := by
  have hget : (m.insert key value).get? key = some value := by rw [get?_insert, if_pos rfl]
  exact isEmpty_of_get? hget

end KeyMap

end Warden
