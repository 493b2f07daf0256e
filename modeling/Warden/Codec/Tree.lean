import Warden.Codec.Grants
import Warden.Path.Tree
import Warden.Text.Bytes

namespace Warden.PatternTree

open Json

def toJson (t : PatternTree) : Json := .array (t.patterns.map Pattern.toJson)

def toBytes (t : PatternTree) : Text.Bytes := Text.bytes (t.toJson.text compact)

def ofBytes (bytes : Text.Bytes) : Except Fault PatternTree :=
  if bytes.isEmpty then .ok empty
  else (decodeChars (decodeList Pattern.ofJson) (Text.chars bytes)).map ofList

end Warden.PatternTree
