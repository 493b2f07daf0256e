namespace Warden

/-- What a privilege can be held on. -/
inductive Scope
  | system
  | path
  | object
  deriving DecidableEq, Repr

namespace Scope

def all : List Scope := [system, path, object]

def name : Scope → String
  | system => "SYSTEM"
  | path => "PATH"
  | object => "OBJECT"

end Scope

inductive Privilege
  | manageUser
  | manageRole
  | useTrigger
  | useUdf
  | useCq
  | usePipe
  | useModel
  | extendTemplate
  | manageDatabase
  | maintain
  | audit
  | readData
  | writeData
  | readSchema
  | writeSchema
  | create
  | drop
  | alter
  | select
  | insert
  | update
  | delete
  deriving DecidableEq, Repr

namespace Privilege

def all : List Privilege :=
  [manageUser, manageRole, useTrigger, useUdf, useCq, usePipe, useModel, extendTemplate,
   manageDatabase, maintain, audit, readData, writeData, readSchema, writeSchema, create, drop,
   alter, select, insert, update, delete]

def ordinal : Privilege → Fin 22
  | manageUser => 0
  | manageRole => 1
  | useTrigger => 2
  | useUdf => 3
  | useCq => 4
  | usePipe => 5
  | useModel => 6
  | extendTemplate => 7
  | manageDatabase => 8
  | maintain => 9
  | audit => 10
  | readData => 11
  | writeData => 12
  | readSchema => 13
  | writeSchema => 14
  | create => 15
  | drop => 16
  | alter => 17
  | select => 18
  | insert => 19
  | update => 20
  | delete => 21

theorem ordinal_injective {p q : Privilege} (h : p.ordinal = q.ordinal) : p = q := by
  cases p <;> cases q <;> first | rfl | exact absurd h (by decide)

theorem mem_all (p : Privilege) : p ∈ all := by
  cases p <;> decide

theorem ordinal_surjective (i : Fin 22) : ∃ p : Privilege, p.ordinal = i := by
  have h : ∀ i : Fin 22, ∃ p ∈ all, p.ordinal = i := by decide
  obtain ⟨p, -, hp⟩ := h i
  exact ⟨p, hp⟩

/-- The short form shown in listings of a set. -/
def label : Privilege → String
  | manageUser => "ManageUser"
  | manageRole => "ManageRole"
  | useTrigger => "UseTrigger"
  | useUdf => "UseUdf"
  | useCq => "UseCq"
  | usePipe => "UsePipe"
  | useModel => "UseModel"
  | extendTemplate => "ExtendTemplate"
  | manageDatabase => "ManageDatabase"
  | maintain => "Maintain"
  | audit => "Audit"
  | readData => "ReadData"
  | writeData => "WriteData"
  | readSchema => "ReadSchema"
  | writeSchema => "WriteSchema"
  | create => "Create"
  | drop => "Drop"
  | alter => "Alter"
  | select => "Select"
  | insert => "Insert"
  | update => "Update"
  | delete => "Delete"

def name : Privilege → String
  | manageUser => "MANAGE_USER"
  | manageRole => "MANAGE_ROLE"
  | useTrigger => "USE_TRIGGER"
  | useUdf => "USE_UDF"
  | useCq => "USE_CQ"
  | usePipe => "USE_PIPE"
  | useModel => "USE_MODEL"
  | extendTemplate => "EXTEND_TEMPLATE"
  | manageDatabase => "MANAGE_DATABASE"
  | maintain => "MAINTAIN"
  | audit => "AUDIT"
  | readData => "READ_DATA"
  | writeData => "WRITE_DATA"
  | readSchema => "READ_SCHEMA"
  | writeSchema => "WRITE_SCHEMA"
  | create => "CREATE"
  | drop => "DROP"
  | alter => "ALTER"
  | select => "SELECT"
  | insert => "INSERT"
  | update => "UPDATE"
  | delete => "DELETE"

def scope : Privilege → Scope
  | readData | writeData | readSchema | writeSchema => .path
  | create | drop | alter | select | insert | update | delete => .object
  | _ => .system

def ofName? (text : String) : Option Privilege := all.find? (·.name = text)

theorem ofName?_name (p : Privilege) : ofName? p.name = some p := by
  cases p <;> decide

end Privilege

structure PrivilegeSet where
  bits : BitVec 22
  deriving DecidableEq, Repr

namespace PrivilegeSet

def empty : PrivilegeSet := ⟨0⟩

instance : Inhabited PrivilegeSet := ⟨empty⟩

def contains (s : PrivilegeSet) (p : Privilege) : Bool := s.bits.getLsbD p.ordinal

instance : Membership Privilege PrivilegeSet := ⟨fun s p => s.contains p = true⟩

instance (p : Privilege) (s : PrivilegeSet) : Decidable (p ∈ s) :=
  inferInstanceAs (Decidable (s.contains p = true))

def insert (s : PrivilegeSet) (p : Privilege) : PrivilegeSet :=
  ⟨s.bits ||| BitVec.twoPow 22 p.ordinal⟩

def erase (s : PrivilegeSet) (p : Privilege) : PrivilegeSet :=
  ⟨s.bits &&& ~~~BitVec.twoPow 22 p.ordinal⟩

def union (s t : PrivilegeSet) : PrivilegeSet := ⟨s.bits ||| t.bits⟩

def subset (s t : PrivilegeSet) : Bool := s.bits &&& ~~~t.bits = 0

def ofList (ps : List Privilege) : PrivilegeSet := ps.foldl insert empty

/-- The members in the order of their ordinals. -/
def toList (s : PrivilegeSet) : List Privilege := Privilege.all.filter s.contains

def isEmpty (s : PrivilegeSet) : Bool := s.bits = 0

def size (s : PrivilegeSet) : Nat := s.toList.length

def label (s : PrivilegeSet) : String :=
  "\x7b" ++ ", ".intercalate (s.toList.map Privilege.label) ++ "\x7d"

theorem ordinal_eq_iff {p q : Privilege} : (p.ordinal : Nat) = q.ordinal ↔ p = q :=
  ⟨fun h => Privilege.ordinal_injective (Fin.ext h), fun h => by rw [h]⟩

theorem contains_insert (s : PrivilegeSet) (p q : Privilege) :
    (s.insert p).contains q = (decide (q = p) || s.contains q) := by
  simp [insert, contains, ordinal_eq_iff, Bool.or_comm]

theorem contains_erase (s : PrivilegeSet) (p q : Privilege) :
    (s.erase p).contains q = (!decide (q = p) && s.contains q) := by
  simp [erase, contains, ordinal_eq_iff, Bool.and_comm]

@[simp] theorem contains_empty (p : Privilege) : empty.contains p = false := by
  simp [empty, contains]

theorem ext {s t : PrivilegeSet} (h : ∀ p, s.contains p = t.contains p) : s = t := by
  obtain ⟨a⟩ := s
  obtain ⟨b⟩ := t
  congr
  apply BitVec.eq_of_getLsbD_eq
  intro i hi
  obtain ⟨p, hp⟩ := Privilege.ordinal_surjective ⟨i, hi⟩
  simpa [contains, hp] using h p

theorem contains_of_isEmpty {s : PrivilegeSet} (h : s.isEmpty = true) (p : Privilege) :
    s.contains p = false := by
  have hs : s.bits = 0 := by simpa [isEmpty] using h
  simp [contains, hs]

theorem contains_foldl_insert {ps : List Privilege} {s : PrivilegeSet} {p : Privilege} :
    (ps.foldl insert s).contains p = true ↔ p ∈ ps ∨ s.contains p = true := by
  induction ps generalizing s with
  | nil => simp
  | cons q ps ih =>
    rw [List.foldl_cons, ih, contains_insert, Bool.or_eq_true, decide_eq_true_iff, List.mem_cons,
      or_left_comm, or_assoc]

theorem subset_iff {s t : PrivilegeSet} :
    s.subset t = true ↔ ∀ p, s.contains p = true → t.contains p = true := by
  rw [subset, decide_eq_true_iff]
  constructor
  · intro h p hs
    have hbit := congrArg (·.getLsbD p.ordinal) h
    have hs' : s.bits.getLsbD p.ordinal = true := hs
    simpa [contains, hs'] using hbit
  · intro h
    apply BitVec.eq_of_getLsbD_eq
    intro i hi
    obtain ⟨p, hp⟩ := Privilege.ordinal_surjective ⟨i, hi⟩
    have hbit := h p
    simp only [contains, hp] at hbit
    cases hs : s.bits.getLsbD i <;> simp_all

theorem mem_toList {s : PrivilegeSet} {p : Privilege} : p ∈ s.toList ↔ s.contains p = true := by
  simp [toList, Privilege.mem_all]

/-- The members of a set make the set. -/
theorem ofList_toList (s : PrivilegeSet) : ofList s.toList = s := by
  refine ext fun p => ?_
  rw [Bool.eq_iff_iff, ofList, contains_foldl_insert, mem_toList, contains_empty]
  simp

end PrivilegeSet

end Warden
