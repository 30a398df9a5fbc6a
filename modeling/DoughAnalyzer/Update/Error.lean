set_option autoImplicit false

namespace DoughAnalyzer

inductive UpdateError where
  | alreadyInProgress
  | batteryTooLow
  | imageTooLarge
  | emptyImage
  | noPartition
  | notReady
  | chunkTimeout
  | sizeMismatch
  | sizeOverflow
  | writeFailed
  | checksumMismatch
  | activateFailed
  | noChunksReceived
  | stalled
  deriving DecidableEq, Repr

namespace UpdateError

def reason : UpdateError → String
  | alreadyInProgress => "already in progress"
  | batteryTooLow => "battery too low"
  | imageTooLarge => "image too large"
  | emptyImage => "empty image"
  | noPartition => "no partition"
  | notReady => "not ready"
  | chunkTimeout => "chunk timeout"
  | sizeMismatch => "size mismatch"
  | sizeOverflow => "size overflow"
  | writeFailed => "write failed"
  | checksumMismatch => "checksum mismatch"
  | activateFailed => "activate failed"
  | noChunksReceived => "no chunks received"
  | stalled => "stalled"

def label : UpdateError → String
  | alreadyInProgress => "AlreadyInProgress"
  | batteryTooLow => "BatteryTooLow"
  | imageTooLarge => "ImageTooLarge"
  | emptyImage => "EmptyImage"
  | noPartition => "NoPartition"
  | notReady => "NotReady"
  | chunkTimeout => "ChunkTimeout"
  | sizeMismatch => "SizeMismatch"
  | sizeOverflow => "SizeOverflow"
  | writeFailed => "WriteFailed"
  | checksumMismatch => "ChecksumMismatch"
  | activateFailed => "ActivateFailed"
  | noChunksReceived => "NoChunksReceived"
  | stalled => "Stalled"

def all : List UpdateError :=
  [alreadyInProgress, batteryTooLow, imageTooLarge, emptyImage, noPartition, notReady, chunkTimeout,
    sizeMismatch, sizeOverflow, writeFailed, checksumMismatch, activateFailed, noChunksReceived,
    stalled]

inductive Category where
  | rejectedStart | transferAbort | verificationFailure
  deriving DecidableEq, Repr

def Category.label : Category → String
  | .rejectedStart => "RejectedStart"
  | .transferAbort => "TransferAbort"
  | .verificationFailure => "VerificationFailure"

def category : UpdateError → Category
  | alreadyInProgress | batteryTooLow | imageTooLarge | emptyImage | noPartition => .rejectedStart
  | notReady | chunkTimeout | sizeMismatch | sizeOverflow | writeFailed | noChunksReceived
  | stalled => .transferAbort
  | checksumMismatch | activateFailed => .verificationFailure

end UpdateError

end DoughAnalyzer
