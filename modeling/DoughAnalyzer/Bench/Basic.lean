import DoughAnalyzer.Bench.Surroundings

set_option autoImplicit false

namespace DoughAnalyzer

namespace Bench

/-- What happened since the journal was last cleared, in order. Only what succeeded is entered. -/
structure Journal where
  events : List Event := []
  published : List (String × String) := []
  subscribed : List String := []
  sleeps : List Nat := []
  log : Console.Log := []

end Bench

/-- `extraSleep` is how much longer than asked a sleep lasts, `markCalls` how often the running
image was to be confirmed, `ticks` how many ticks were run. -/
structure Bench where
  clock : Nat := 0
  network : Bench.Network := .fixed {}
  channel : Bench.Channel := {}
  sensors : Bench.Sensors := .fixed {}
  power : Bench.Power := .fixed 80 true
  panel : Panel := Panel.empty
  platform : Platform := {}
  failSleep : Bool := false
  extraSleep : Nat := 0
  markCalls : Nat := 0
  ticks : Nat := 0
  journal : Bench.Journal := {}

namespace Bench

def write (b : Bench) (log : Console.Log) : Bench :=
  { b with journal := { b.journal with log := b.journal.log ++ log } }

def clearJournal (b : Bench) : Bench := { b with journal := {} }

def Journal.sent (j : Journal) (topic payload : String) : Journal :=
  { j with published := j.published ++ [(topic, payload)] }

def publish (b : Bench) (topic payload : String) : Except ChannelError Unit × Bench :=
  if b.channel.failPublish || !b.channel.mailbox.isConnected then (.error .publishFailed, b)
  else (.ok (), { b with journal := b.journal.sent topic payload })

def subscribe (b : Bench) (topic : String) : Except ChannelError Unit × Bench :=
  if b.channel.failSubscribe.any fun ending => topic.endsWith ending then
    (.error .subscribeFailed, b)
  else
    (.ok (), { b with journal := { b.journal with subscribed := b.journal.subscribed ++ [topic] } })

/-- A sleep that fails leaves the clock where it is. -/
def sleep (b : Bench) (span : Nat) : Except PlatformError Unit × Bench :=
  if b.failSleep then (.error .sleepFailed, b)
  else
    (.ok (),
      { b with
        clock := b.clock + span + b.extraSleep, platform := b.platform.sleep span
        journal := { b.journal with sleeps := b.journal.sleeps ++ [span] } })

def emit (b : Bench) (event : Event) : Bench :=
  { b with journal := { b.journal with events := b.journal.events ++ [event] } }.write
    [event.record]

def respond : (q : Request) → Bench → q.Reply × Bench
  | .clock, b => (b.clock, b)
  | .networkConnected, b => (b.network.isConnected, b)
  | .networkFailed, b => (b.network.hasFailed, b)
  | .signal, b => (b.network.signal, b)
  | .pollNetwork now, b =>
    let (network, log) := b.network.poll now
    ((), { b with network }.write log)
  | .suspendNetwork, b =>
    let (network, log) := b.network.suspend
    ((), { b with network }.write log)
  | .resumeNetwork, b =>
    let (network, log) := b.network.resume
    ((), { b with network }.write log)
  | .channelConnected, b => (b.channel.mailbox.isConnected, b)
  | .channelFailed, b => (b.channel.mailbox.hasFailed, b)
  | .subscribe topic, b => b.subscribe topic
  | .publish topic payload, b => b.publish topic payload
  | .nextFrame, b =>
    let (frame, mailbox) := b.channel.mailbox.next
    (frame, { b with channel := { b.channel with mailbox } })
  | .sensorsDue now, b => (b.sensors.isDue now, b)
  | .collect now, b =>
    let (r, sensors, log) := b.sensors.collect now
    (r, { b with sensors }.write log)
  | .render reading percent, b =>
    ((), { b with panel := b.panel.render reading percent }.write [Panel.record reading percent])
  | .safeToFlash, b => (b.power.isSafe, b)
  | .batteryPercent, b => (b.power.percent, b)
  | .restart, b =>
    let (platform, log) := b.platform.restart
    ((), { b with platform }.write log)
  | .markRunningValid, b =>
    let (r, platform) := b.platform.markRunningValid
    (r, { b with platform, markCalls := b.markCalls + 1 })
  | .freeHeap, b => (b.platform.freeHeap, b)
  | .sleep span, b => b.sleep span
  | .emit event, b => ((), b.emit event)
  | .log record, b => ((), b.write [record])

def tick (c : Controller) (b : Bench) : Controller × Bench :=
  let (power, log) := b.power.poll b.clock
  let b := { b with power }.write log
  let (c, b) := c.tick.run respond b
  (c, { b with clock := b.clock + c.config.tickInterval.toNat, ticks := b.ticks + 1 })

def tickTimes (stop : Option Phase) : Nat → Controller → Bench → Controller × Bench
  | 0, c, b => (c, b)
  | n + 1, c, b =>
    if stop = some c.lifecycle.current then (c, b)
    else
      let (c, b) := tick c b
      tickTimes stop n c b

def deliver (b : Bench) (topic : String) (payload : Octets) : Bool × Bench :=
  let (accepted, mailbox, log) := b.channel.mailbox.deliver topic payload
  (accepted, { b with channel := { b.channel with mailbox } }.write log)

def health (c : Controller) (b : Bench) : Health × Bench :=
  let h := Health.collect (b.clock / 1000) b.ticks b.network.signal c.session.status
    c.session.progress
  (h, b.write [h.record])

end Bench

end DoughAnalyzer
