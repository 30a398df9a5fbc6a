import DoughAnalyzer.Document.Outline
import DoughAnalyzer.Document.Print
import DoughAnalyzer.Fault

set_option autoImplicit false

namespace DoughAnalyzer

structure Config where
  tickInterval : UInt32 := 100
  errorRestartDelay : UInt32 := 5000
  networkTimeout : UInt32 := 30000
  sensingInterval : UInt32 := 300000
  sleepWindow : UInt32 := 300000
  lowPower : Bool := true
  chunkTimeout : UInt32 := 30000
  initialTimeout : UInt32 := 60000
  stallWarning : UInt32 := 45000
  stallTimeout : UInt32 := 120000
  rebootDelay : UInt32 := 3000
  progressStep : UInt8 := 5
  minBattery : UInt8 := 20
  deriving DecidableEq, Repr

namespace Config

inductive Complaint where
  | noTick | noTimeout | warningTooLate | stepOutOfRange | batteryOutOfRange | noSleep
  deriving DecidableEq, Repr

def Complaint.message : Complaint → String
  | .noTick => "tick_interval_ms must be > 0"
  | .noTimeout => "OTA timeouts must be > 0"
  | .warningTooLate => "ota_stall_warning_ms must be below ota_stall_timeout_ms"
  | .stepOutOfRange => "ota_progress_step_percent must be 1-100"
  | .batteryOutOfRange => "min_battery_percent must be 0-100"
  | .noSleep => "sleep_window_ms must be > 0 in low-power mode"

/-- The first rule that settings break. -/
def complaint? (c : Config) : Option Complaint :=
  if c.tickInterval = 0 then some .noTick
  else if c.chunkTimeout = 0 ∨ c.initialTimeout = 0 then some .noTimeout
  else if c.stallTimeout ≤ c.stallWarning then some .warningTooLate
  else if c.progressStep = 0 ∨ 100 < c.progressStep then some .stepOutOfRange
  else if 100 < c.minBattery then some .batteryOutOfRange
  else if c.lowPower ∧ c.sleepWindow = 0 then some .noSleep
  else none

def validate (c : Config) : Except ConfigError Unit :=
  match c.complaint? with
  | some complaint => .error (.invalid complaint.message)
  | none => .ok ()

def keys : List String :=
  ["tick_interval_ms", "error_restart_delay_ms", "network_connect_timeout_ms",
    "sensing_interval_ms", "sleep_window_ms", "low_power_mode", "ota_chunk_timeout_ms",
    "ota_initial_timeout_ms", "ota_stall_warning_ms", "ota_stall_timeout_ms",
    "ota_reboot_delay_ms", "ota_progress_step_percent", "min_battery_percent"]

def values (c : Config) : List String :=
  [Document.natural c.tickInterval.toNat, Document.natural c.errorRestartDelay.toNat,
    Document.natural c.networkTimeout.toNat, Document.natural c.sensingInterval.toNat,
    Document.natural c.sleepWindow.toNat, Document.flag c.lowPower,
    Document.natural c.chunkTimeout.toNat, Document.natural c.initialTimeout.toNat,
    Document.natural c.stallWarning.toNat, Document.natural c.stallTimeout.toNat,
    Document.natural c.rebootDelay.toNat, Document.natural c.progressStep.toNat,
    Document.natural c.minBattery.toNat]

def document (c : Config) : String := Document.object (keys.zip c.values)

open Document in
def ofFields? : List Octets → Option Config
  | [tick, restart, network, sensing, sleep, low, chunk, initial, warning, stall, reboot, step,
      battery] => do
    return {
      tickInterval := ← wordOf tick
      errorRestartDelay := ← wordOf restart
      networkTimeout := ← wordOf network
      sensingInterval := ← wordOf sensing
      sleepWindow := ← wordOf sleep
      lowPower := ← flagOf low
      chunkTimeout := ← wordOf chunk
      initialTimeout := ← wordOf initial
      stallWarning := ← wordOf warning
      stallTimeout := ← wordOf stall
      rebootDelay := ← wordOf reboot
      progressStep := ← octetOf step
      minBattery := ← octetOf battery }
  | _ => none

/-- Settings as they stand in a document, whether or not they keep the rules. -/
def read? (raw : Octets) : Option Config :=
  ((Document.outline? raw).bind (Document.Outline.fields keys)).bind ofFields?

def decode (raw : Octets) : Except ConfigError Config :=
  match read? raw with
  | none => .error .corrupted
  | some c =>
    match c.validate with
    | .error e => .error e
    | .ok () => .ok c

end Config

structure Connection where
  ssid : String := ""
  password : String := ""
  brokerUrl : String := "mqtt://192.168.1.10:1883"
  brokerUser : Option String := none
  brokerPassword : Option String := none
  identity : Option String := none
  deriving DecidableEq, Repr

end DoughAnalyzer
