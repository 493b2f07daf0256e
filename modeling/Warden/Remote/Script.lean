import Warden.Codec.Message
import Warden.Remote.Client

namespace Warden

inductive ScriptLine
  | fault (fault : Fault)
  | answer (answer : Json)

abbrev Script := List ScriptLine

namespace Script

def next {α : Type} (decoder : Json.Decoder α) : Action Script α
  | [] => (.error (.transport "script exhausted"), [])
  | .fault fault :: script => (.error fault, script)
  | .answer j :: script =>
    match Json.decode decoder j with
    | .ok a => (.ok a, script)
    | .error _ => (.error (.transport "script mismatch"), script)

def client : Client Script where
  checkPrivilege _ := next PermissionInfo.ofJson
  login _ := next PermissionInfo.ofJson
  checkMembership _ := next PermissionInfo.ofJson
  fetchTree _ := next PatternTreeInfo.ofJson
  operate _ := next Status.ofJson
  query _ := next QueryResponse.ofJson

end Script

end Warden
