import DoughAnalyzer.Update.Session

/-!
The operations of an update. Each answers with the session after it, a result, and its effects;
nothing else happens. `step` gathers them under one type of calls, of which a history is a list.
-/

set_option autoImplicit false

namespace DoughAnalyzer.Update

def chunkLogInterval : Nat := 10

structure Outcome (α : Type) where
  session : Session
  result : α
  effects : List Effect

def Outcome.after {α : Type} (remarks : List Remark) (o : Outcome α) : Outcome α :=
  { o with effects := remarks.map .remark ++ o.effects }

abbrev Verdict := Except UpdateError Unit

inductive Poll where
  | idle | rebootNow
  deriving DecidableEq, Repr

namespace Session

def reject (s : Session) (reason : UpdateError) : Outcome Verdict :=
  ⟨s, .error reason, [.remark (.rejected reason), .notice (.error reason 0)]⟩

def fail (s : Session) (reason : UpdateError) : Outcome Verdict :=
  if s.status.holdsPartition then
    ⟨{ s.release with status := .error, total := 0, received := 0, lastError := some reason },
      .error reason,
      [.remark (.aborted s.progress reason), .notice (.error reason s.progress)]⟩
  else ⟨s.release, .error reason, []⟩

def begin (s : Session) (a : Wire.Announcement) (writer : Store.Writer) (store : Store)
    (now : Nat) : Session :=
  { s with
    store, writer := some writer, status := .downloading, version := a.version
    total := a.size.toNat, received := 0, expected := a.checksum, checksum := .start, chunks := 0
    startedAt := now, lastChunkAt := now, lastProgressAt := now
    stallWarned := false, notified := 0, lastError := none }

/-- Opens a session for an announcement. Of several reasons against it the first one counts. -/
def start (s : Session) (a : Wire.Announcement) (safeToFlash : Bool) (now : Nat) :
    Outcome Verdict :=
  if !s.acceptsAnnouncement then
    ⟨s, .error .alreadyInProgress, [.remark (.ignored a.version)]⟩
  else if !safeToFlash then s.reject .batteryTooLow
  else if a.size = 0 then s.reject .emptyImage
  else match s.store.slot with
  | .error e => (s.reject .noPartition).after [.noSlot e]
  | .ok capacity =>
    if capacity < a.size.toNat then
      (s.reject .imageTooLarge).after [.tooLarge a.size.toNat capacity]
    else match s.store.openWriter with
    | .error e =>
      (s.reject .noPartition).after
        ((if s.store.isBusy then [.storeBusy] else []) ++ [.cannotOpen e])
    | .ok (writer, store) =>
      ⟨s.begin a writer store now, .ok (),
        [.remark (.begun a.version a.size.toNat a.checksum), .notice .started]⟩

def carried (c : Wire.Chunk) : Nat := c.payload.length % UInt32.size

/-- The session after a piece was written. Only a piece that is not empty counts as progress. -/
def advance (s : Session) (c : Wire.Chunk) (writer : Store.Writer) (now : Nat) : Session :=
  { s with
    checksum := s.checksum.update c.payload, writer := some writer
    received := s.received + carried c, chunks := s.chunks + 1, lastChunkAt := now
    lastProgressAt := if 0 < carried c then now else s.lastProgressAt
    stallWarned := if 0 < carried c then false else s.stallWarned }

def countRemarks (s : Session) (c : Wire.Chunk) : List Remark :=
  if s.chunks % chunkLogInterval = 0 then [.counted c.index s.received s.total] else []

def tellsProgress (s : Session) : Bool :=
  s.progress = 100 || min 255 (s.notified + s.timing.progressStep) ≤ s.progress

def told (s : Session) : Session :=
  if s.tellsProgress then { s with notified := s.progress } else s

def toldNotices (s : Session) : List Notice :=
  if s.tellsProgress then [.downloading s.progress] else []

/-- Verifies the image and makes it the next one to run. Nothing is activated unless the checksum
is the announced one. -/
def finalize (s : Session) (now : Nat) : Outcome Verdict :=
  let s := { s with status := .applying }
  if s.checksum.value ≠ s.expected then
    (s.fail .checksumMismatch).after [.checksumDiffers s.expected s.checksum.value]
  else match s.writer with
  | none => s.fail .notReady
  | some writer =>
    match s.store.activate writer with
    | (.error e, store) =>
      ({ s with writer := none, store }.fail .activateFailed).after [.activateFailed e]
    | (.ok (), store) =>
      ⟨{ s with
          writer := none, store, status := .complete
          rebootAt := some (now + s.timing.rebootDelay) },
        .ok (),
        [.notice .applying, .remark (.activated s.version s.timing.rebootDelay),
          .notice .complete]⟩

def settle (s : Session) (c : Wire.Chunk) (now : Nat) : Outcome Verdict :=
  let before := (s.countRemarks c).map .remark ++ s.toldNotices.map .notice
  let s := s.told
  if s.total ≤ s.received then
    let o := s.finalize now
    { o with effects := before ++ o.effects }
  else ⟨s, .ok (), before⟩

/-- Takes one chunk. Chunks count in the order of arrival; the index is only logged. The checksum
takes a piece before it is written. -/
def receive (s : Session) (c : Wire.Chunk) (now : Nat) : Outcome Verdict :=
  if s.status ≠ .downloading then ⟨s, .error .notReady, []⟩
  else if s.timing.chunkTimeout < now - s.lastChunkAt then s.fail .chunkTimeout
  else if c.payload.length ≠ c.declared.toNat then
    (s.fail .sizeMismatch).after [.sizeDiffers c.index c.declared (carried c)]
  else if s.total < s.received + carried c then s.fail .sizeOverflow
  else
    let summed := { s with checksum := s.checksum.update c.payload }
    match s.writer with
    | none => summed.fail .notReady
    | some writer =>
      match writer.write c.payload with
      | .error e => (summed.fail .writeFailed).after [.writeFailed c.index e]
      | .ok writer => (s.advance c writer now).settle c now

/-- Ends a running update for a reason of the caller. -/
def abort (s : Session) (reason : UpdateError) : Outcome Unit :=
  let o := s.fail reason
  ⟨o.session, (), o.effects⟩

def reset (s : Session) : Session :=
  { s.release with
    status := .idle, total := 0, received := 0, expected := 0, checksum := .start, chunks := 0
    rebootAt := none, lastError := none }

/-- How long no byte has arrived. -/
def idleFor (s : Session) (now : Nat) : Nat := now - s.lastProgressAt

def supervise (s : Session) (now : Nat) : Outcome Unit :=
  if s.chunks = 0 then
    if s.timing.initialTimeout < now - s.startedAt then s.abort .noChunksReceived
    else ⟨s, (), []⟩
  else if s.timing.stallTimeout < s.idleFor now then s.abort .stalled
  else if s.timing.stallWarning < s.idleFor now ∧ s.stallWarned = false then
    ⟨{ s with stallWarned := true }, (),
      [.remark (.noProgress (s.idleFor now) s.received s.total)]⟩
  else ⟨s, (), []⟩

def poll (s : Session) (now : Nat) : Outcome Poll :=
  match s.status with
  | .downloading =>
    let o := s.supervise now
    ⟨o.session, .idle, o.effects⟩
  | .complete =>
    match s.rebootAt with
    | some time =>
      if time ≤ now then
        ⟨{ s with status := .rebooting, rebootAt := none }, .rebootNow, [.remark .rebooting]⟩
      else ⟨s, .idle, []⟩
    | none => ⟨s, .idle, []⟩
  | .idle | .applying | .rebooting | .error => ⟨s, .idle, []⟩

/-- The channel is back. A running download keeps all it has; only the clock between two chunks
starts again. -/
def reconnect (s : Session) (now : Nat) : Outcome Unit :=
  if s.status = .downloading then
    ⟨{ s with lastChunkAt := now }, (),
      [.remark (.resuming s.version s.received s.total), .notice (.resumed s.progress)]⟩
  else ⟨s, (), []⟩

inductive Call where
  | start (a : Wire.Announcement) (safeToFlash : Bool) (now : Nat)
  | chunk (c : Wire.Chunk) (now : Nat)
  | abort (reason : UpdateError)
  | reset
  | poll (now : Nat)
  | reconnect (now : Nat)
  deriving DecidableEq, Repr

inductive Reply where
  | verdict (v : Verdict)
  | poll (p : Poll)
  | nothing

def step (s : Session) : Call → Outcome Reply
  | .start a safe now =>
    let o := s.start a safe now
    ⟨o.session, .verdict o.result, o.effects⟩
  | .chunk c now =>
    let o := s.receive c now
    ⟨o.session, .verdict o.result, o.effects⟩
  | .abort reason =>
    let o := s.abort reason
    ⟨o.session, .nothing, o.effects⟩
  | .reset => ⟨s.reset, .nothing, []⟩
  | .poll now =>
    let o := s.poll now
    ⟨o.session, .poll o.result, o.effects⟩
  | .reconnect now =>
    let o := s.reconnect now
    ⟨o.session, .nothing, o.effects⟩

end Session

end DoughAnalyzer.Update
