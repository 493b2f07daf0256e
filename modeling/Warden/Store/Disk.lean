import Warden.KeyMap
import Warden.Text.Bytes
import Warden.Text.Split

namespace Warden

inductive Disk
  | file (content : Text.Bytes)
  | folder (entries : List (String × Disk))

namespace Disk

def empty : Disk := folder []

instance : Inhabited Disk := ⟨empty⟩

def entries : Disk → List (String × Disk)
  | file _ => []
  | folder entries => entries

/-- What stands at the end of a path. -/
def find? : List String → Disk → Option Disk
  | [], d => some d
  | name :: path, d => (Entries.find? name d.entries).bind (find? path)

/-- Puts something at the end of a path whose folders exist. -/
def put? : List String → Disk → Disk → Option Disk
  | [], _, new => some new
  | _ :: _, file _, _ => none
  | [name], folder entries, new => some (folder (Entries.insert name new entries))
  | name :: path, folder entries, new => do
    let d ← Entries.find? name entries
    return folder (Entries.insert name (← put? path d new) entries)

def remove? : List String → Disk → Option Disk
  | [], _ => none
  | _, file _ => none
  | [name], folder entries => some (folder (Entries.erase name entries))
  | name :: path, folder entries => do
    let d ← Entries.find? name entries
    return folder (Entries.insert name (← remove? path d) entries)

/-- Makes the folders of a path that are missing; none when a file stands in the way. -/
def makeFolders? : List String → Disk → Option Disk
  | _, file _ => none
  | [], d => some d
  | name :: path, folder entries => do
    let d ← makeFolders? path ((Entries.find? name entries).getD empty)
    return folder (Entries.insert name d entries)

def content? (path : List String) (d : Disk) : Option Text.Bytes :=
  match d.find? path with
  | some (file content) => some content
  | _ => none

/-- Writes a file whose folder exists and whose place is not taken by a folder. -/
def write? (path : List String) (content : Text.Bytes) (d : Disk) : Option Disk :=
  match d.find? path with
  | some (folder _) => none
  | _ => d.put? path (file content)

def unlink? (path : List String) (d : Disk) : Option Disk :=
  match d.find? path with
  | some (file _) => d.remove? path
  | _ => none

/-- The names in a folder. An entry behind another one of its name is out of reach. -/
def names? (path : List String) (d : Disk) : Option (List String) :=
  match d.find? path with
  | some (folder entries) => some (entries.map (·.1)).eraseDups
  | _ => none

/-- The steps of a path that is written with slashes. An empty step and a dot lead nowhere else. -/
def path (text : String) : List String :=
  ((Text.split '/' text.toList).map String.ofList).filter fun s => s ≠ "" && s ≠ "."

end Disk

end Warden
