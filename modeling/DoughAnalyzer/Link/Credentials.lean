set_option autoImplicit false

namespace DoughAnalyzer.Link

inductive CredentialError where
  | invalidSsid | invalidPassword
  deriving DecidableEq, Repr

namespace CredentialError

def message : CredentialError → String
  | invalidSsid => "SSID invalid (must be 1-32 printable ASCII bytes)"
  | invalidPassword => "password invalid (must be 8-64 bytes for WPA2, or empty for open)"

def label : CredentialError → String
  | invalidSsid => "InvalidSsid"
  | invalidPassword => "InvalidPassword"

end CredentialError

def isPrintable (c : Char) : Bool := 0x20 ≤ c.toNat && c.toNat ≤ 0x7e

def checkSsid (ssid : String) : Except CredentialError Unit :=
  if ssid.isEmpty || 32 < ssid.utf8ByteSize || !ssid.toList.all isPrintable then
    .error .invalidSsid
  else .ok ()

/-- An empty password is that of an open network. -/
def checkPassword (password : String) : Except CredentialError Unit :=
  if password.isEmpty then .ok ()
  else if password.utf8ByteSize < 8 || 64 < password.utf8ByteSize then .error .invalidPassword
  else .ok ()

end DoughAnalyzer.Link
