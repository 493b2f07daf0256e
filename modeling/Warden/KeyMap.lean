namespace Warden

namespace Entries

variable {α : Type}

def find? (key : String) : List (String × α) → Option α
  | [] => none
  | (k, v) :: rest => if k = key then some v else find? key rest

def insert (key : String) (value : α) : List (String × α) → List (String × α)
  | [] => [(key, value)]
  | (k, v) :: rest =>
    if key < k then (key, value) :: (k, v) :: rest
    else if key = k then (key, value) :: rest
    else (k, v) :: insert key value rest

def erase (key : String) : List (String × α) → List (String × α)
  | [] => []
  | (k, v) :: rest => if k = key then erase key rest else (k, v) :: erase key rest

abbrev Ascending (entries : List (String × α)) : Prop :=
  entries.Pairwise fun a b => a.1 < b.1

theorem mem_insert {key : String} {value : α} {entries : List (String × α)} {e : String × α}
    (h : e ∈ insert key value entries) : e = (key, value) ∨ e ∈ entries := by
  induction entries with
  | nil => simpa [insert] using h
  | cons a rest ih =>
    simp only [insert] at h
    split at h
    · simpa using h
    · split at h
      · rcases List.mem_cons.1 h with h | h
        · exact .inl h
        · exact .inr (List.mem_cons_of_mem _ h)
      · rcases List.mem_cons.1 h with h | h
        · exact .inr (h ▸ List.mem_cons_self)
        · exact (ih h).imp_right (List.mem_cons_of_mem _)

theorem lt_of_not_lt_of_ne {a b : String} (h : ¬ a < b) (hne : a ≠ b) : b < a :=
  String.not_le.1 fun hle => hne (String.le_antisymm hle (String.not_lt.1 h))

theorem ascending_insert (key : String) (value : α) {entries : List (String × α)}
    (h : Ascending entries) : Ascending (insert key value entries) := by
  induction entries with
  | nil => simp [insert]
  | cons a rest ih =>
    obtain ⟨ha, hrest⟩ := List.pairwise_cons.1 h
    simp only [insert]
    split
    · rename_i hlt
      refine List.pairwise_cons.2 ⟨fun b hb => ?_, h⟩
      rcases List.mem_cons.1 hb with rfl | hb
      · exact hlt
      · exact String.lt_trans hlt (ha b hb)
    · rename_i hnlt
      split
      · rename_i heq
        exact List.pairwise_cons.2 ⟨fun b hb => by simpa [heq] using ha b hb, hrest⟩
      · rename_i hne
        refine List.pairwise_cons.2 ⟨fun b hb => ?_, ih hrest⟩
        rcases mem_insert hb with rfl | hb
        · exact lt_of_not_lt_of_ne hnlt hne
        · exact ha b hb

theorem erase_sublist (key : String) (entries : List (String × α)) :
    (erase key entries).Sublist entries := by
  induction entries with
  | nil => exact List.Sublist.refl []
  | cons a rest ih =>
    simp only [erase]
    split
    · exact ih.cons a
    · exact ih.cons_cons a

theorem ascending_erase (key : String) {entries : List (String × α)} (h : Ascending entries) :
    Ascending (erase key entries) :=
  h.sublist (erase_sublist key entries)

theorem find?_insert (key : String) (value : α) (entries : List (String × α)) (k : String) :
    find? k (insert key value entries) = if k = key then some value else find? k entries := by
  induction entries with
  | nil => simp [insert, find?, eq_comm]
  | cons a rest ih =>
    simp only [insert]
    split
    · simp [find?, eq_comm]
    · split
      · rename_i heq
        by_cases hk : k = key
        · simp [find?, hk]
        · have : ¬ a.1 = k := fun h => hk (by rw [← h, heq])
          simp [find?, hk, this, Ne.symm hk]
      · rename_i hne
        simp only [find?, ih]
        by_cases hk : k = key
        · subst hk
          simp [Ne.symm hne]
        · simp [hk]

theorem find?_erase (key : String) (entries : List (String × α)) (k : String) :
    find? k (erase key entries) = if k = key then none else find? k entries := by
  induction entries with
  | nil => simp [erase, find?]
  | cons a rest ih =>
    simp only [erase]
    split
    · rename_i ha
      by_cases hk : k = key
      · rw [ih, hk]; simp
      · have : ¬ a.1 = k := fun h => hk (by rw [← h, ha])
        simp [ih, hk, find?, this]
    · rename_i ha
      simp only [find?, ih]
      by_cases hk : k = key
      · simp [hk, ha]
      · simp [hk]

theorem erase_eq_self {key : String} {entries : List (String × α)} (h : find? key entries = none) :
    erase key entries = entries := by
  induction entries with
  | nil => rfl
  | cons a rest ih =>
    simp only [find?] at h
    split at h
    · cases h
    · rename_i ha
      rw [erase, if_neg ha, ih h]

theorem mem_of_find? {key : String} {value : α} {entries : List (String × α)}
    (h : find? key entries = some value) : (key, value) ∈ entries := by
  induction entries with
  | nil => cases h
  | cons a rest ih =>
    rw [find?] at h
    split at h
    · rename_i ha
      obtain rfl := Option.some.inj h
      exact ha ▸ List.mem_cons_self
    · exact List.mem_cons_of_mem a (ih h)

theorem mem_keys_iff {key : String} {entries : List (String × α)} :
    key ∈ entries.map (·.1) ↔ (find? key entries).isSome := by
  induction entries with
  | nil => simp [find?]
  | cons a rest ih =>
    rw [List.map_cons, List.mem_cons, ih, find?]
    by_cases h : a.1 = key
    · simp [h]
    · simp [h, Ne.symm h]

/-- A key that comes after all others goes to the end. -/
theorem insert_last {key : String} {value : α} {entries : List (String × α)}
    (h : ∀ e ∈ entries, e.1 < key) : insert key value entries = entries ++ [(key, value)] := by
  induction entries with
  | nil => rfl
  | cons a rest ih =>
    obtain ⟨ha, hrest⟩ := List.forall_mem_cons.1 h
    have hne : key ≠ a.1 := (String.ne_of_lt ha).symm
    rw [insert, if_neg (String.lt_asymm ha), if_neg hne, ih hrest, List.cons_append]

end Entries

structure KeyMap (α : Type) where
  entries : List (String × α)
  ascending : Entries.Ascending entries
  deriving DecidableEq

namespace KeyMap

variable {α : Type}

def empty : KeyMap α := ⟨[], List.Pairwise.nil⟩

instance : Inhabited (KeyMap α) := ⟨empty⟩

def get? (m : KeyMap α) (key : String) : Option α := Entries.find? key m.entries

def contains (m : KeyMap α) (key : String) : Bool := (m.get? key).isSome

def insert (m : KeyMap α) (key : String) (value : α) : KeyMap α :=
  ⟨Entries.insert key value m.entries, Entries.ascending_insert key value m.ascending⟩

def erase (m : KeyMap α) (key : String) : KeyMap α :=
  ⟨Entries.erase key m.entries, Entries.ascending_erase key m.ascending⟩

/-- Of two entries with one key the later one stays. -/
def ofList (entries : List (String × α)) : KeyMap α :=
  entries.foldl (fun m e => m.insert e.1 e.2) empty

def keys (m : KeyMap α) : List String := m.entries.map (·.1)

def isEmpty (m : KeyMap α) : Bool := m.entries.isEmpty

def size (m : KeyMap α) : Nat := m.entries.length

theorem entries_foldl_insert {m : KeyMap α} {entries : List (String × α)}
    (h : Entries.Ascending (m.entries ++ entries)) :
    (entries.foldl (fun m e => m.insert e.1 e.2) m).entries = m.entries ++ entries := by
  induction entries generalizing m with
  | nil => rw [List.append_nil]; rfl
  | cons e entries ih =>
    have hlast : (m.insert e.1 e.2).entries = m.entries ++ [e] :=
      Entries.insert_last fun x hx => (List.pairwise_append.1 h).2.2 x hx e List.mem_cons_self
    have happend : (m.insert e.1 e.2).entries ++ entries = m.entries ++ e :: entries := by
      rw [hlast, List.append_assoc, List.singleton_append]
    rw [List.foldl_cons, ih (happend ▸ h), happend]

/-- The entries of a map make the map. -/
theorem ofList_entries (m : KeyMap α) : ofList m.entries = m := by
  obtain ⟨entries, ascending⟩ := m
  have hentries : (ofList entries).entries = entries :=
    entries_foldl_insert (m := empty) ascending
  generalize ofList entries = m at hentries
  obtain ⟨entries', ascending'⟩ := m
  simp only [mk.injEq]
  exact hentries

@[simp] theorem get?_empty (key : String) : (empty : KeyMap α).get? key = none := rfl

theorem get?_insert (m : KeyMap α) (key : String) (value : α) (k : String) :
    (m.insert key value).get? k = if k = key then some value else m.get? k :=
  Entries.find?_insert key value m.entries k

theorem get?_erase (m : KeyMap α) (key k : String) :
    (m.erase key).get? k = if k = key then none else m.get? k :=
  Entries.find?_erase key m.entries k

theorem erase_eq_self {m : KeyMap α} {key : String} (h : m.get? key = none) : m.erase key = m := by
  obtain ⟨entries, ascending⟩ := m
  simp only [erase, mk.injEq]
  exact Entries.erase_eq_self h

theorem mem_keys_iff {m : KeyMap α} {key : String} : key ∈ m.keys ↔ (m.get? key).isSome :=
  Entries.mem_keys_iff

theorem keys_ascending (m : KeyMap α) : m.keys.Pairwise (· < ·) :=
  List.pairwise_map.2 m.ascending

theorem contains_of_get? {m : KeyMap α} {key : String} {value : α} (h : m.get? key = some value) :
    m.contains key = true := by
  rw [contains, h]
  rfl

theorem contains_of_none {m : KeyMap α} {key : String} (h : m.get? key = none) :
    m.contains key = false := by
  rw [contains, h]
  rfl

theorem eq_empty {m : KeyMap α} (h : m.isEmpty = true) : m = .empty := by
  obtain ⟨entries, ascending⟩ := m
  obtain rfl : entries = [] := List.isEmpty_iff.1 h
  rfl

theorem get?_of_isEmpty {m : KeyMap α} (h : m.isEmpty = true) (key : String) :
    m.get? key = none := by
  rw [isEmpty, List.isEmpty_iff] at h
  rw [get?, h, Entries.find?]

section Values

variable {P : α → Prop} {m : KeyMap α}

theorem forall_of_get? (h : ∀ e ∈ m.entries, P e.2) {key : String} {value : α}
    (hget : m.get? key = some value) : P value := h _ (Entries.mem_of_find? hget)

theorem forall_insert (h : ∀ e ∈ m.entries, P e.2) {value : α} (hvalue : P value) (key : String) :
    ∀ e ∈ (m.insert key value).entries, P e.2 := by
  intro e he
  rcases Entries.mem_insert he with rfl | he
  · exact hvalue
  · exact h e he

theorem forall_erase (h : ∀ e ∈ m.entries, P e.2) (key : String) :
    ∀ e ∈ (m.erase key).entries, P e.2 := fun e he =>
  h e ((Entries.erase_sublist key m.entries).subset he)

theorem forall_foldl_insert {entries : List (String × α)} (hm : ∀ e ∈ m.entries, P e.2)
    (h : ∀ e ∈ entries, P e.2) :
    ∀ e ∈ (entries.foldl (fun m e => m.insert e.1 e.2) m).entries, P e.2 := by
  induction entries generalizing m with
  | nil => exact hm
  | cons e entries ih =>
    obtain ⟨he, hentries⟩ := List.forall_mem_cons.1 h
    exact ih (forall_insert hm he e.1) hentries

theorem forall_ofList {entries : List (String × α)} (h : ∀ e ∈ entries, P e.2) :
    ∀ e ∈ (ofList entries).entries, P e.2 := forall_foldl_insert nofun h

end Values

end KeyMap

/-- A set of texts, listed in ascending order. -/
abbrev NameSet := KeyMap Unit

namespace NameSet

def insert (s : NameSet) (name : String) : NameSet := KeyMap.insert s name ()

def ofNames (names : List String) : NameSet := names.foldl insert KeyMap.empty

/-- The names of a set make the set. -/
theorem ofNames_keys (s : NameSet) : ofNames s.keys = s := by
  have hunits : s.keys.map (fun name => (name, ())) = s.entries := by
    rw [KeyMap.keys, List.map_map]
    exact List.map_id s.entries
  have hlist : ofNames s.keys = KeyMap.ofList (s.keys.map fun name => (name, ())) := by
    rw [KeyMap.ofList, List.foldl_map]
    rfl
  rw [hlist, hunits, KeyMap.ofList_entries]

end NameSet

end Warden
