import DoughAnalyzer.Octets
import DoughAnalyzer.Store.Basic
import DoughAnalyzer.Update.Notice

set_option autoImplicit false

namespace DoughAnalyzer.Update

/-- What is worth a line in the log. Sizes and offsets are in octets, times in milliseconds. -/
inductive Remark where
  | ignored (version : String)
  | rejected (reason : UpdateError)
  | noSlot (e : StoreError)
  | tooLarge (size capacity : Nat)
  | storeBusy
  | cannotOpen (e : StoreError)
  | begun (version : String) (size : Nat) (expected : UInt32)
  | sizeDiffers (index declared : UInt32) (carried : Nat)
  | writeFailed (index : UInt32) (e : StoreError)
  | counted (index : UInt32) (received total : Nat)
  | checksumDiffers (expected actual : UInt32)
  | activateFailed (e : StoreError)
  | activated (version : String) (delay : Nat)
  | aborted (progress : Nat) (reason : UpdateError)
  | noProgress (idle received total : Nat)
  | rebooting
  | resuming (version : String) (received total : Nat)
  deriving DecidableEq, Repr

namespace Remark

def record : Remark → Console.Record
  | ignored version =>
    .warn ("OTA: announcement " ++ version ++ " ignored, " ++ UpdateError.alreadyInProgress.reason)
  | rejected reason => .warn ("OTA: update rejected: " ++ reason.reason)
  | noSlot e => .warn ("OTA: no update partition: " ++ e.message)
  | tooLarge size capacity =>
    .warn ("OTA: image " ++ toString size ++ " bytes exceeds partition of " ++ toString capacity
      ++ " bytes")
  | storeBusy => Store.busyRecord
  | cannotOpen e => .warn ("OTA: cannot open inactive partition: " ++ e.message)
  | begun version size expected =>
    .info ("OTA: begin v" ++ version ++ " (" ++ toString size ++ " bytes, crc32 "
      ++ hexWord expected ++ ")")
  | sizeDiffers index declared carried =>
    .warn ("OTA: chunk " ++ toString index.toNat ++ " declared " ++ toString declared.toNat
      ++ " bytes, carried " ++ toString carried)
  | writeFailed index e =>
    .warn ("OTA: chunk " ++ toString index.toNat ++ " write failed: " ++ e.message)
  | counted index received total =>
    .info ("OTA: chunk " ++ toString index.toNat ++ " (" ++ toString received ++ "/"
      ++ toString total ++ " bytes)")
  | checksumDiffers expected actual =>
    .error ("OTA: checksum mismatch (expected " ++ hexWord expected ++ ", got " ++ hexWord actual
      ++ ")")
  | activateFailed e => .warn ("OTA: activate failed: " ++ e.message)
  | activated version delay =>
    .info ("OTA: v" ++ version ++ " verified and activated, rebooting in " ++ toString delay
      ++ " ms")
  | aborted progress reason =>
    .warn ("OTA: aborted at " ++ toString progress ++ "%: " ++ reason.reason)
  | noProgress idle received total =>
    .warn ("OTA: no progress for " ++ toString idle ++ " ms at " ++ toString received ++ "/"
      ++ toString total ++ " bytes")
  | rebooting => .info "OTA: rebooting into new firmware"
  | resuming version received total =>
    .info ("OTA: resuming v" ++ version ++ " at " ++ toString received ++ "/" ++ toString total
      ++ " bytes")

end Remark

inductive Effect where
  | remark (r : Remark)
  | notice (n : Notice)
  deriving DecidableEq, Repr

namespace Effect

def notice? : Effect → Option Notice
  | notice n => some n
  | remark _ => none

def remark? : Effect → Option Remark
  | remark r => some r
  | notice _ => none

end Effect

def notices (effects : List Effect) : List Notice := effects.filterMap Effect.notice?

def remarks (effects : List Effect) : List Remark := effects.filterMap Effect.remark?

@[simp] theorem notices_append (x y : List Effect) : notices (x ++ y) = notices x ++ notices y :=
  List.filterMap_append

@[simp] theorem notices_map_notice (x : List Notice) : notices (x.map .notice) = x := by
  induction x with
  | nil => rfl
  | cons n x ih => exact congrArg (n :: ·) ih

@[simp] theorem notices_map_remark (x : List Remark) : notices (x.map .remark) = [] := by
  induction x with
  | nil => rfl
  | cons r x ih => exact ih

@[simp] theorem remarks_append (x y : List Effect) : remarks (x ++ y) = remarks x ++ remarks y :=
  List.filterMap_append

end DoughAnalyzer.Update
