import DoughAnalyzer.Document.Outline
import DoughAnalyzer.Fault
import DoughAnalyzer.Text.Capacity

set_option autoImplicit false

namespace DoughAnalyzer.Wire

structure Announcement where
  version : String
  size : UInt32
  checksum : UInt32
  deriving DecidableEq, Repr

namespace Announcement

def versionCapacity : Nat := 32

def keys : List String := ["version", "size", "crc32"]

/-- The document's fields, whatever the length of the version. -/
def read? (raw : Octets) : Option Announcement :=
  match (Document.outline? raw).bind (Document.Outline.fields keys) with
  | some [version, size, checksum] =>
    match Document.textOf version, Document.wordOf size, Document.wordOf checksum with
    | some version, some size, some checksum => some ⟨version, size, checksum⟩
    | _, _, _ => none
  | _ => none

def decode (raw : Octets) : Except DecodeError Announcement :=
  match read? raw with
  | none => .error .invalidDocument
  | some a => if Text.fits versionCapacity a.version then .ok a else .error .versionTooLong

end Announcement

end DoughAnalyzer.Wire
