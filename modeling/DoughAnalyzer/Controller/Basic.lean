import DoughAnalyzer.Boot
import DoughAnalyzer.Controller.Dialogue
import DoughAnalyzer.Report
import DoughAnalyzer.Text.Span
import DoughAnalyzer.Update.Step
import DoughAnalyzer.Wire.Router

/-!
The state of the control loop, and the parts of a tick that deal with the control channel: the
subscriptions after a connect, the messages that wait, and the update's notices.
-/

set_option autoImplicit false

namespace DoughAnalyzer

/-- `channelUp` is set once all subscriptions of a connection stand; `restartRequested` once the
error phase has asked for a restart. -/
structure Controller where
  config : Config
  lifecycle : Lifecycle
  session : Update.Session
  router : Wire.Router
  boot : BootCheck
  id : String
  lastReading : Option Reading := none
  channelUp : Bool := false
  started : Bool := false
  restartRequested : Bool := false

namespace Controller

open Dialogue (request)

def maxMessagesPerTick : Nat := 16

def initial (config : Config) (store : Store) (id : String) (boot : BootCheck) (now : Nat) :
    Controller where
  config := config
  lifecycle := Lifecycle.start now
  session := Update.Session.ofStore store (Update.Timing.ofConfig config)
  router := Wire.Router.ofTopics (Wire.Topics.ofId id)
  boot := boot
  id := id

def topics (c : Controller) : Wire.Topics := c.router.topics

def say (record : Console.Record) : Dialogue Unit := request (.log record)

def sayAll : Console.Log → Dialogue Unit
  | [] => pure ()
  | record :: rest => do say record; sayAll rest

def goTo (c : Controller) (next : Phase) (now : Nat) : Dialogue Controller := do
  sayAll (c.lifecycle.moveLog next)
  return { c with lifecycle := c.lifecycle.moveTo next now }

/-- Publishes a notice; one that cannot be sent is only logged. -/
def publishNotice (c : Controller) (n : Update.Notice) : Dialogue Unit := do
  match ← request (.publish c.topics.updateStatus n.document) with
  | .ok () => pure ()
  | .error e => say (.warn ("OTA: status notice not sent: " ++ e.message))

def perform (c : Controller) : List Update.Effect → Dialogue Unit
  | [] => pure ()
  | .remark r :: rest => do say r.record; c.perform rest
  | .notice n :: rest => do c.publishNotice n; c.perform rest

def commit {α : Type} (c : Controller) (o : Update.Outcome α) : Dialogue Controller := do
  c.perform o.effects
  return { c with session := o.session }

/-- Subscribes topics in order until one fails. -/
def subscribeAll : List String → Dialogue Bool
  | [] => pure true
  | topic :: rest => do
    match ← request (.subscribe topic) with
    | .ok () => subscribeAll rest
    | .error e =>
      say (.warn ("controller: subscribe " ++ topic ++ " failed: " ++ e.message
        ++ ", retrying next tick"))
      return false

/-- Follows the control channel. Subscriptions do not outlive a connection, so all of them are made
again before the channel counts as up, and only then may a running download go on. -/
def trackChannel (c : Controller) (now : Nat) : Dialogue Controller := do
  let connected ← request .channelConnected
  if connected = c.channelUp then return c
  else if !connected then
    say (.warn "controller: control channel lost")
    return { c with channelUp := false }
  else if ← subscribeAll c.topics.subscriptions then
    say (.info "controller: control channel up, subscriptions restored")
    { c with channelUp := true }.commit (c.session.reconnect now)
  else return c

def publishDiagnostics (c : Controller) (now : Nat) : Dialogue (Except Fault Unit) := do
  let heap ← request .freeHeap
  let signal ← request .signal
  let report := Diagnostics.of c.id now heap c.lifecycle.current signal c.lastReading
  match ← request (.publish c.topics.diagnosticsResponse report.document) with
  | .error e => return .error (.channel e)
  | .ok () =>
    say (.info "controller: diagnostics sent")
    return .ok ()

/-- Whether it is safe to write the flash, asked only where the answer counts. -/
def askSafety (c : Controller) : Dialogue Bool :=
  if c.session.acceptsAnnouncement then request .safeToFlash else pure true

def handle (c : Controller) (now : Nat) : Wire.Message → Dialogue (Controller × Except Fault Unit)
  | .announcement a => do
    let safe ← c.askSafety
    let o := c.session.start a safe now
    return (← c.commit o, o.result.mapError .update)
  | .chunk chunk => do
    let o := c.session.receive chunk now
    return (← c.commit o, o.result.mapError .update)
  | .diagnosticsRequest => do return (c, ← c.publishDiagnostics now)
  | .other => return (c, .ok ())

/-- A failure on the way of a message. Only a reply that could not be sent is news; the rest was
logged or told where it arose. -/
def failureLog (topic : String) : Except Fault Unit → Console.Log
  | .ok () => []
  | .error (.channel e) =>
    [.warn ("controller: reply to " ++ topic ++ " failed: " ++ (Fault.channel e).message)]
  | .error e => [.debug ("controller: message on " ++ topic ++ " dropped: " ++ e.message)]

def dispatch (c : Controller) (frame : Wire.Frame) (now : Nat) : Dialogue Controller := do
  let (router, message, log) := c.router.route frame.topic frame.payload
  sayAll log
  let c := { c with router }
  match message with
  | .error e =>
    sayAll (failureLog frame.topic (.error (.decode e)))
    return c
  | .ok message =>
    let (c, result) ← c.handle now message
    sayAll (failureLog frame.topic result)
    return c

def drain (c : Controller) (now : Nat) : Nat → Dialogue Controller
  | 0 => pure c
  | n + 1 => do
    match ← request .nextFrame with
    | none => return c
    | some frame => (← c.dispatch frame now).drain now n

end Controller

end DoughAnalyzer
