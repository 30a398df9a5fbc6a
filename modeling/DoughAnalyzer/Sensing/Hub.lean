import DoughAnalyzer.Console
import DoughAnalyzer.Decimal.Fixed
import DoughAnalyzer.Reading
import DoughAnalyzer.Sensing.Source

/-!
The hub that makes one reading of several raw samples. Implausible values are left out of the means,
climate and distance each for itself. The first mean distance is the baseline of the rise.
-/

set_option autoImplicit false

namespace DoughAnalyzer.Sensing

def readsPerPass : Nat := 5

/-- Both bounds of each range belong to it, and what is not a number lies in none. -/
def climateValid (s : Sample) : Bool :=
  -40 ≤ s.temperature && s.temperature ≤ 85 && 0 ≤ s.humidity && s.humidity ≤ 100

def distanceValid (mm : UInt16) : Bool := nearest < mm && mm < farthest

structure Tally where
  temperature : Float32 := 0
  humidity : Float32 := 0
  climates : Nat := 0
  distanceSum : Nat := 0
  distances : Nat := 0
  failed : Nat := 0
  lastError : SensorError := .readFailed

namespace Tally

def addClimate (t : Tally) (s : Sample) : Tally :=
  if climateValid s then
    { t with
      temperature := t.temperature + s.temperature, humidity := t.humidity + s.humidity
      climates := t.climates + 1 }
  else { t with failed := t.failed + 1, lastError := .outOfRange }

def validDistance (s : Sample) : Option UInt16 := s.distance.filter distanceValid

def addDistance (t : Tally) (s : Sample) : Tally :=
  match validDistance s with
  | some mm => { t with distanceSum := t.distanceSum + mm.toNat, distances := t.distances + 1 }
  | none => { t with failed := t.failed + 1 }

def add (t : Tally) : Read → Tally
  | .error e => { t with failed := t.failed + 1, lastError := e }
  | .ok s => (t.addClimate s).addDistance s

def ofReads (reads : List Read) : Tally := reads.foldl add {}

def meanDistance (t : Tally) : Option Nat :=
  if 0 < t.distances then some (t.distanceSum / t.distances) else none

end Tally

/-- `baseline` is the distance in millimetres from which the rise counts. -/
structure Hub where
  source : Source
  interval : Nat
  lastPassAt : Option Nat := none
  baseline : Option Nat := none
  failed : Nat := 0

namespace Hub

def isDue (h : Hub) (now : Nat) : Bool :=
  match h.lastPassAt with
  | none => true
  | some t => h.interval ≤ now - t

def resetBaseline (h : Hub) : Hub := { h with baseline := none }

def riseFrom (base mm : Nat) : Float32 :=
  (Float32.ofNat base - Float32.ofNat mm) / Float32.ofNat base * 100

/-- The rise that a mean distance shows; without one it counts as none. -/
def rise (h : Hub) : Option Nat → Float32
  | none => 0
  | some mm =>
    match h.baseline with
    | some base => riseFrom base mm
    | none => 0

def baselineAfter (h : Hub) (mean : Option Nat) : Option Nat := h.baseline.or mean

def readingRecord (r : Reading) : Console.Record :=
  .debug ("sensors: T=" ++ Decimal.fixed 1 r.temperature ++ "C RH=" ++ Decimal.fixed 1 r.humidity
    ++ "% rise=" ++ Decimal.fixed 1 r.rise ++ "%")

def distanceLog : Option Nat → Console.Log
  | none => [.warn "sensors: no valid distance, rise reported as 0"]
  | some _ => []

/-- One pass. A pass without a single valid climate fails, and then sets no baseline; it too counts
as the last pass. -/
def collect (h : Hub) (now : Nat) : Except SensorError Reading × Hub × Console.Log :=
  let (reads, source) := h.source.take readsPerPass
  let t := Tally.ofReads reads
  let h := { h with source, lastPassAt := some now, failed := h.failed + t.failed }
  if t.climates = 0 then
    (.error t.lastError, h,
      [.warn ("sensors: no valid climate reading (" ++ t.lastError.message ++ ")")])
  else
    let count := Float32.ofNat t.climates
    let mean := t.meanDistance
    let reading : Reading := ⟨t.temperature / count, t.humidity / count, h.rise mean⟩
    (.ok reading, { h with baseline := h.baselineAfter mean },
      distanceLog mean ++ [readingRecord reading])

end Hub

end DoughAnalyzer.Sensing
