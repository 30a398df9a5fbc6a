import DoughAnalyzer.Checksum
import DoughAnalyzer.Config
import DoughAnalyzer.Update.Effect
import DoughAnalyzer.Update.Status
import DoughAnalyzer.Wire.Announcement
import DoughAnalyzer.Wire.Chunk

/-!
The state of an update, its time limits, and what it shows of itself.
-/

set_option autoImplicit false

namespace DoughAnalyzer.Update

/-- Limits in milliseconds, and the least advance in percent between two progress notices. -/
structure Timing where
  chunkTimeout : Nat
  initialTimeout : Nat
  stallWarning : Nat
  stallTimeout : Nat
  rebootDelay : Nat
  progressStep : Nat
  deriving DecidableEq, Repr

/-- A step of zero counts as one. -/
def Timing.ofConfig (c : Config) : Timing where
  chunkTimeout := c.chunkTimeout.toNat
  initialTimeout := c.initialTimeout.toNat
  stallWarning := c.stallWarning.toNat
  stallTimeout := c.stallTimeout.toNat
  rebootDelay := c.rebootDelay.toNat
  progressStep := max c.progressStep.toNat 1

/-- `notified` is the progress last told. The writer is held while bytes arrive and are verified;
`rebootAt` is set from the activation to the reboot. -/
structure Session where
  store : Store
  timing : Timing
  status : Status := .idle
  version : String := ""
  total : Nat := 0
  received : Nat := 0
  expected : UInt32 := 0
  checksum : Checksum := .start
  writer : Option Store.Writer := none
  chunks : Nat := 0
  startedAt : Nat := 0
  lastChunkAt : Nat := 0
  lastProgressAt : Nat := 0
  stallWarned : Bool := false
  notified : Nat := 0
  rebootAt : Option Nat := none
  lastError : Option UpdateError := none
  deriving DecidableEq, Repr

namespace Session

def ofStore (store : Store) (timing : Timing) : Session where
  store := store
  timing := timing

def percentage (s : Session) : Nat := s.received * 100 / s.total

def progress (s : Session) : Nat := if s.total = 0 then 0 else s.percentage % UInt8.size

def inProgress (s : Session) : Bool := s.status = .downloading || s.status = .applying

/-- The image is in place and the reboot is due or under way. -/
def rebootPending (s : Session) : Bool := s.rebootAt.isSome || s.status = .rebooting

def isActive (s : Session) : Bool := s.inProgress || s.rebootPending

def acceptsAnnouncement (s : Session) : Bool := s.status.acceptsAnnouncement && s.rebootAt.isNone

structure View where
  status : Status
  total : Nat
  received : Nat
  expected : UInt32
  checksum : UInt32
  holdsWriter : Bool
  lastChunkAt : Nat
  deriving DecidableEq, Repr

def view (s : Session) : View where
  status := s.status
  total := s.total
  received := s.received
  expected := s.expected
  checksum := s.checksum.value
  holdsWriter := s.writer.isSome
  lastChunkAt := s.lastChunkAt

/-- Gives up the writer, if one is held, and with it what it wrote. -/
def release (s : Session) : Session :=
  match s.writer with
  | none => s
  | some _ => { s with writer := none, store := s.store.release }

end Session

end DoughAnalyzer.Update
