import Warden.Config
import Warden.Json.Record
import Warden.Json.Writer
import Warden.Text.Bytes

namespace Warden.Config

open Json

def toJson (c : Config) : Json :=
  .object
    [("admin_name", .string c.adminName), ("admin_password", .string c.adminPassword),
     ("heartbeat_timeout_ms", .natural c.heartbeatTimeoutMs),
     ("rpc_timeout_ms", .natural c.rpcTimeoutMs), ("rpc_workers", .natural c.rpcWorkers),
     ("accept_cache", .bool c.acceptCache), ("min_name_len", .natural c.minNameLength),
     ("min_password_len", .natural c.minPasswordLength)]

def names : List String :=
  ["admin_name", "admin_password", "heartbeat_timeout_ms", "rpc_timeout_ms", "rpc_workers",
   "accept_cache", "min_name_len", "min_password_len"]

def parts (row : Row) : Reading Config :=
  Config.mk <$> row.withDefault "admin_name" standard.adminName decodeText
    <*> row.withDefault "admin_password" standard.adminPassword decodeText
    <*> row.withDefault "heartbeat_timeout_ms" standard.heartbeatTimeoutMs decodeCount
    <*> row.withDefault "rpc_timeout_ms" standard.rpcTimeoutMs decodeCount
    <*> row.withDefault "rpc_workers" standard.rpcWorkers decodeCount
    <*> row.withDefault "accept_cache" standard.acceptCache decodeBool
    <*> row.withDefault "min_name_len" standard.minNameLength decodeCount
    <*> row.withDefault "min_password_len" standard.minPasswordLength decodeCount

def ofJson : Decoder Config := decodeRecord names parts

/-- Reads settings and holds them to their rules. -/
def ofText (text : String) : Except Fault Config := do
  (← decodeChars ofJson text.toList).checked

/-- The settings in a file, if there is one; its content must be UTF-8. -/
def ofFile (content : Option Text.Bytes) : Except Fault Config :=
  match content.bind Text.ofBytes? with
  | some text => ofText text
  | none => .error .storage

end Warden.Config
