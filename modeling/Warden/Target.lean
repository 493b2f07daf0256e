import Warden.Path.Pattern

namespace Warden

inductive Target
  | system
  | path (pattern : Pattern)
  | object (database : String) (table : Option String)
  deriving DecidableEq

namespace Target

def scope : Target → Scope
  | system => .system
  | path _ => .path
  | object .. => .object

def objectText (database : String) : Option String → String
  | some table => database ++ "." ++ table
  | none => database

def text : Target → String
  | system => "system"
  | path pattern => pattern.text
  | object database table => objectText database table

/-- Where a privilege counts, in the words of a refusal. -/
def place? : Target → Option String
  | system => none
  | target => some target.text

end Target

end Warden
