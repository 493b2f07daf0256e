import Warden.Digest.Sha256
import Warden.Text.Bytes

namespace Warden.Password

def marker : String := "SHA-256:"

def stored (username password : String) : String :=
  marker ++ Sha256.hex (Sha256.digest (Text.bytes password ++ Text.bytes username))

def legacy (password : String) : String := Sha256.hex (Sha256.digest (Text.bytes password))

def matches? (username password known : String) : Bool :=
  if marker.toList.isPrefixOf known.toList then stored username password = known
  else legacy password = known

end Warden.Password
