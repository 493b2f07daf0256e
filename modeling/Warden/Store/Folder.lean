import Warden.Codec.Principal
import Warden.Store.Basic
import Warden.Store.Disk

namespace Warden

/-- How a type of entries is named and written. -/
structure EntryForm (α : Type) where
  nameOf : α → String
  toJson : α → Json
  ofJson : Json.Decoder α

def User.form : EntryForm User := ⟨User.name, User.toJson, User.ofJson⟩

def Role.form : EntryForm Role := ⟨Role.name, Role.toJson, Role.ofJson⟩

namespace Folder

def extension : List Char := ".json".toList

/-- Why a name cannot be the name of a file. -/
def nameFlaw? (name : String) : Option String :=
  if name = "" then some "name is empty"
  else if name.toList.head? = some '.' then some "name must not start with a dot"
  else if name.toList.any fun c => c = '/' || c = '\\' || c = '\x00' then
    some "name contains a path separator"
  else none

def fileName (name : String) : Except Fault String :=
  match nameFlaw? name with
  | some reason => .error (.illegalName .entry name reason)
  | none => .ok (String.ofList (name.toList ++ extension))

/-- The name whose entry a file is; hidden files and files of other kinds are no entries. -/
def entryName? (file : String) : Option String :=
  let cs := file.toList
  let stem := cs.take (cs.length - extension.length)
  if stem ++ extension = cs ∧ stem ≠ [] ∧ stem.head? ≠ some '.' then some (String.ofList stem)
  else none

/-- What the disk refuses to do is a failure of the storage. -/
def must {α : Type} : Option α → Except Fault α
  | some a => .ok a
  | none => .error .storage

variable {α : Type}

def load (form : EntryForm α) (dir : List String) (name : String) (d : Disk) :
    Except Fault (Option α) := do
  let file ← fileName name
  match d.find? (dir ++ [file]) with
  | none => return none
  | some (.folder _) => .error .storage
  | some (.file content) => return some (← Json.decodeChars form.ofJson (Text.chars content))

def save (form : EntryForm α) (dir : List String) (entry : α) (d : Disk) : Except Fault Disk := do
  let file ← fileName (form.nameOf entry)
  must (d.write? (dir ++ [file]) (Text.bytes ((form.toJson entry).text Json.indented)))

def delete (dir : List String) (name : String) (d : Disk) : Except Fault (Bool × Disk) := do
  let file ← fileName name
  match d.find? (dir ++ [file]) with
  | none => return (false, d)
  | some _ => return (true, ← must (d.unlink? (dir ++ [file])))

def names (dir : List String) (d : Disk) : Except Fault (List String) := do
  let files ← must (d.names? dir)
  return sortNames (files.filterMap entryName?)

/-- The entries of one kind in one folder. -/
def store (form : EntryForm α) (dir : List String) : Store Disk α where
  load := load form dir
  save := save form dir
  delete := delete dir
  names := names dir

/-- Makes the folder if it is missing. -/
def openAt (dir : List String) : Action Disk Unit := .change fun d => do
  return ((), ← must (d.makeFolders? dir))

end Folder

end Warden
