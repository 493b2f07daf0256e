import Warden.Grants.Holding
import Warden.KeyMap
import Warden.Target

namespace Warden

structure DatabaseGrants where
  own : Holding
  tables : KeyMap Holding
  deriving DecidableEq

namespace DatabaseGrants

def empty : DatabaseGrants := ⟨.empty, .empty⟩

def isEmpty (d : DatabaseGrants) : Bool := d.own.isEmpty && d.tables.isEmpty

/-- The holding of a table, or of the database itself. -/
def get? (d : DatabaseGrants) : Option String → Option Holding
  | some table => d.tables.get? table
  | none => some d.own

def put (d : DatabaseGrants) (table : Option String) (holding : Holding) : DatabaseGrants :=
  match table with
  | some table => { d with tables := d.tables.insert table holding }
  | none => { d with own := holding }

def dropEmpty (d : DatabaseGrants) (table : Option String) : DatabaseGrants :=
  match table with
  | some table =>
    if (d.tables.get? table).any (·.isEmpty) then { d with tables := d.tables.erase table } else d
  | none => d

end DatabaseGrants

structure ObjectGrants where
  databases : KeyMap DatabaseGrants
  deriving DecidableEq

namespace ObjectGrants

def empty : ObjectGrants := ⟨.empty⟩

def isEmpty (o : ObjectGrants) : Bool := o.databases.isEmpty

def get? (o : ObjectGrants) (database : String) (table : Option String) : Option Holding :=
  (o.databases.get? database).bind (·.get? table)

/-- Missing entries on the way are made. -/
def put (o : ObjectGrants) (database : String) (table : Option String) (holding : Holding) :
    ObjectGrants :=
  ⟨o.databases.insert database
    (((o.databases.get? database).getD .empty).put table holding)⟩

/-- Removes a table, then a database, that holds nothing. -/
def prune (o : ObjectGrants) (database : String) (table : Option String) : ObjectGrants :=
  match o.databases.get? database with
  | none => o
  | some d =>
    let d := d.dropEmpty table
    if d.isEmpty then ⟨o.databases.erase database⟩ else ⟨o.databases.insert database d⟩

def allows (o : ObjectGrants) (database : String) (table : Option String) (p : Privilege)
    (option : Bool) : Bool :=
  match o.databases.get? database with
  | none => false
  | some d =>
    d.own.allows p option ||
      ((table.bind (d.tables.get? ·)).any (·.allows p option))

def add (o : ObjectGrants) (database : String) (table : Option String) (p : Privilege)
    (option : Bool) : ObjectGrants × Bool :=
  let (holding, changed) := ((o.get? database table).getD .empty).grant p option
  (o.put database table holding, changed)

/-- Entries that are left empty go. -/
def remove (o : ObjectGrants) (database : String) (table : Option String) (p : Privilege) :
    ObjectGrants × Bool :=
  match o.get? database table with
  | none => (o.prune database table, false)
  | some holding =>
    let (holding, changed) := holding.revoke p
    ((o.put database table holding).prune database table, changed)

def removeOption (o : ObjectGrants) (database : String) (table : Option String)
    (p : Privilege) : ObjectGrants × Bool :=
  match o.get? database table with
  | none => (o, false)
  | some holding =>
    let (holding, changed) := holding.revokeOption p
    (o.put database table holding, changed)

def grant (database : String) (table : Option String) (p : Privilege) (option : Bool) :
    Action ObjectGrants Bool :=
  .checked (p.check .object) (·.add database table p option)

def grantOption (database : String) (table : Option String) (p : Privilege) :
    Action ObjectGrants Bool := do
  .ofExcept (p.check .object)
  .withinSome (·.get? database table) (fun holding o => o.put database table holding)
    (Holding.grantOption p none)
    (.fail (Holding.optionWithout p (some (Target.objectText database table))))

def revoke (database : String) (table : Option String) (p : Privilege) :
    Action ObjectGrants Bool :=
  .checked (p.check .object) (·.remove database table p)

def revokeOption (database : String) (table : Option String) (p : Privilege) :
    Action ObjectGrants Bool :=
  .checked (p.check .object) (·.removeOption database table p)

end ObjectGrants

end Warden
