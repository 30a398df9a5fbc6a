import DoughAnalyzer.Controller.Basic

set_option autoImplicit false

namespace DoughAnalyzer.Controller

open Dialogue (request)

def connectTimeoutPassed (c : Controller) (now : Nat) : Bool :=
  c.lifecycle.lasted c.config.networkTimeout.toNat now

def connectTimeoutText (c : Controller) : String := Text.span c.config.networkTimeout.toNat

def connectNetwork (c : Controller) (now : Nat) : Dialogue Controller := do
  if ← request .networkConnected then c.goTo .connectingControlChannel now
  else if ← request .networkFailed then
    say (.warn "controller: network failed permanently")
    c.goTo .error now
  else if c.connectTimeoutPassed now then
    say (.warn ("controller: network not up after " ++ c.connectTimeoutText))
    c.goTo .error now
  else return c

/-- Confirms the running image if that is due; a failure leaves it due. -/
def confirmBoot (c : Controller) : Dialogue Controller := do
  if c.boot.pending then
    let r ← request .markRunningValid
    say (BootCheck.confirmRecord r)
    if r.isOk then request (.emit .firmwareConfirmed)
    return { c with boot := c.boot.confirmed r }
  else return c

def connectChannel (c : Controller) (now : Nat) : Dialogue Controller := do
  if ← request .channelConnected then
    (← c.confirmBoot).goTo .sensing now
  else if ← request .channelFailed then
    say (.warn "controller: control channel failed permanently")
    c.goTo .error now
  else if !(← request .networkConnected) then c.goTo .connectingNetwork now
  else if c.connectTimeoutPassed now then
    say (.warn ("controller: control channel not up after " ++ c.connectTimeoutText))
    c.goTo .error now
  else return c

def sense (c : Controller) (now : Nat) : Dialogue Controller := do
  if ← request (.sensorsDue now) then
    match ← request (.collect now) with
    | .ok reading => Controller.goTo { c with lastReading := some reading } .updatingDisplay now
    | .error e =>
      say (.warn ("controller: sampling failed: " ++ (Fault.sensor e).message))
      return c
  else return c

def updateDisplay (c : Controller) (now : Nat) : Dialogue Controller := do
  match c.lastReading with
  | some reading =>
    let percent ← request .batteryPercent
    request (.render reading percent)
  | none => pure ()
  c.goTo .publishingData now

def publishReading (c : Controller) (now : Nat) (reading : Reading) : Dialogue Unit := do
  let report := Telemetry.of c.id now reading
  let r ← request (.publish c.topics.telemetry report.document)
  match r with
  | .ok () => pure ()
  | .error e => say (.warn ("controller: telemetry not sent: " ++ e.message))
  request (.emit (.telemetryPublished r.isOk))

/-- Sleep would cut the connection that still delivers chunks, so an active update goes first. -/
def publishData (c : Controller) (now : Nat) : Dialogue Controller := do
  match c.lastReading with
  | some reading => c.publishReading now reading
  | none => pure ()
  c.goTo (if c.session.isActive then .applyingUpdate else .sleeping) now

/-- Sleeps with the radio down. The clock is read anew afterwards. -/
def sleepOnce (c : Controller) : Dialogue Controller := do
  request .suspendNetwork
  match ← request (.sleep c.config.sleepWindow.toNat) with
  | .ok () => pure ()
  | .error e => say (.warn ("controller: sleep failed: " ++ e.message))
  request .resumeNetwork
  let woke ← request .clock
  c.goTo .connectingNetwork woke

def rest (c : Controller) (now : Nat) : Dialogue Controller := do
  if c.session.isActive then
    say (.info "controller: update running, sleep cancelled")
    c.goTo .applyingUpdate now
  else if c.config.lowPower then c.sleepOnce
  else if c.lifecycle.lasted c.config.sensingInterval.toNat now then c.goTo .sensing now
  else return c

def applyUpdate (c : Controller) (now : Nat) : Dialogue Controller := do
  if c.session.isActive then return c
  else
    say (.info ("controller: update finished with " ++ c.session.status.label
      ++ ", back to sensing"))
    c.goTo .sensing now

def recover (c : Controller) (now : Nat) : Dialogue Controller := do
  if c.restartRequested then return c
  else if c.lifecycle.lasted c.config.errorRestartDelay.toNat now then
    say (.warn "controller: restarting after error")
    request .restart
    return { c with restartRequested := true }
  else return c

def workPhase (c : Controller) (now : Nat) : Dialogue Controller :=
  match c.lifecycle.current with
  | .boot => c.goTo .connectingNetwork now
  | .connectingNetwork => c.connectNetwork now
  | .connectingControlChannel => c.connectChannel now
  | .sensing => c.sense now
  | .updatingDisplay => c.updateDisplay now
  | .publishingData => c.publishData now
  | .sleeping => c.rest now
  | .applyingUpdate => c.applyUpdate now
  | .error => c.recover now

def pollUpdate (c : Controller) (now : Nat) : Dialogue Controller := do
  let o := c.session.poll now
  let c ← c.commit o
  match o.result with
  | .idle => pure ()
  | .rebootNow =>
    say (.info "controller: restarting into new firmware")
    request .restart
  return c

def announceStart (c : Controller) : Dialogue Controller := do
  if c.started then return c
  else
    say (.info ("controller: started as " ++ c.id))
    request (.emit (.started c.lifecycle.current))
    return { c with started := true }

def announceChanges (before after : Controller) : Dialogue Unit := do
  if after.lifecycle.current ≠ before.lifecycle.current then
    request (.emit (.phaseChanged before.lifecycle.current after.lifecycle.current))
  if after.session.status ≠ before.session.status then
    request (.emit (.statusChanged before.session.status after.session.status))

def tick (c : Controller) : Dialogue Controller := do
  let now ← request .clock
  let before ← c.announceStart
  let c ← before.trackChannel now
  let c ← c.drain now maxMessagesPerTick
  let c ← c.pollUpdate now
  request (.pollNetwork now)
  let c ← c.workPhase now
  announceChanges before c
  return c

end DoughAnalyzer.Controller
