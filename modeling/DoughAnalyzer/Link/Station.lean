import DoughAnalyzer.Console
import DoughAnalyzer.Health

/-!
The radio station that brings the network up without blocking: each poll looks at the link, and when
an interval has passed asks for it again. After a budget of requests it gives up for good.
-/

set_option autoImplicit false

namespace DoughAnalyzer.Link

/-- A simulated access point and the radio that asks for it. -/
structure Radio where
  reachable : Bool
  associated : Bool := false
  powered : Bool := true
  requests : Nat := 0
  deriving DecidableEq, Repr

namespace Radio

/-- A request is answered at once, by an access point that can be reached. -/
def request (r : Radio) : Radio :=
  { r with requests := r.requests + 1, associated := r.powered && r.reachable }

def isUp (r : Radio) : Bool := r.associated && r.powered && r.reachable

def rssi (r : Radio) : Option Int := if r.isUp then some (-61) else none

def powerDown (r : Radio) : Radio := { r with powered := false, associated := false }

def powerUp (r : Radio) : Radio := { r with powered := true }

end Radio

inductive State where
  | idle
  | connecting (attempt : Nat)
  | connected
  | suspended
  | failed
  deriving DecidableEq, Repr

def State.label : State → String
  | .idle => "Idle"
  | .connecting _ => "Connecting"
  | .connected => "Connected"
  | .suspended => "Suspended"
  | .failed => "Failed"

def retryInterval : Nat := 1000

def defaultMaxAttempts : Nat := 30

structure Station where
  radio : Radio
  state : State := .idle
  maxAttempts : Nat
  lastAttemptAt : Option Nat := none
  rssi : Option Int := none
  deriving DecidableEq, Repr

namespace Station

def ofRadio (radio : Radio) (maxAttempts : Nat) : Station where
  radio := radio
  maxAttempts := max maxAttempts 1

def isConnected (s : Station) : Bool := s.state = .connected

def hasFailed (s : Station) : Bool := s.state = .failed

def request (s : Station) (made now : Nat) : Station × Console.Log :=
  if s.maxAttempts ≤ made then
    ({ s with state := .failed },
      [.warn ("WiFi: giving up after " ++ toString made ++ " attempts")])
  else
    ({ s with
        radio := s.radio.request, lastAttemptAt := some now, state := .connecting (made + 1) },
      [.info ("WiFi: connect attempt " ++ toString (made + 1) ++ "/" ++ toString s.maxAttempts)])

def isDue (s : Station) (now : Nat) : Bool :=
  match s.lastAttemptAt with
  | none => true
  | some t => retryInterval ≤ now - t

def poll (s : Station) (now : Nat) : Station × Console.Log :=
  match s.state with
  | .idle => s.request 0 now
  | .connecting attempt =>
    if s.radio.isUp then
      ({ s with state := .connected, rssi := s.radio.rssi },
        [.info ("WiFi: connected (RSSI=" ++ signalText s.radio.rssi ++ ", attempt "
          ++ toString attempt ++ ")")])
    else if s.isDue now then s.request attempt now
    else (s, [])
  | .connected =>
    if s.radio.isUp then ({ s with rssi := s.radio.rssi }, [])
    else
      let (s, log) := { s with rssi := none }.request 0 now
      (s, .warn "WiFi: connection lost, reconnecting" :: log)
  | .suspended | .failed => (s, [])

/-- Powers the radio down; a station that has failed stays as it is. -/
def suspend (s : Station) : Station × Console.Log :=
  if s.state = .failed then (s, [])
  else
    ({ s with radio := s.radio.powerDown, state := .suspended, rssi := none },
      [.info "WiFi: radio suspended"])

def resume (s : Station) : Station × Console.Log :=
  if s.state = .suspended then
    ({ s with radio := s.radio.powerUp, state := .idle, lastAttemptAt := none },
      [.info "WiFi: radio resumed"])
  else (s, [])

def setReachable (s : Station) (on : Bool) : Station :=
  { s with radio := { s.radio with reachable := on } }

end Station

end DoughAnalyzer.Link
