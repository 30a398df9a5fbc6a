import DoughAnalyzer.Console

set_option autoImplicit false

namespace DoughAnalyzer.Battery

def emptyMillivolts : Nat := 3300

def fullMillivolts : Nat := 4200

/-- Voltage of the converter's largest reading, in millivolts. -/
def referenceMillivolts : Nat := 3300

def largestReading : Nat := 4095

def dividerRatio : Nat := 2

def readingsPerMeasurement : Nat := 8

def refreshInterval : Nat := 30000

def millivolts (raw : Nat) : Nat := raw * referenceMillivolts / largestReading * dividerRatio

def percent (mv : Nat) : Nat :=
  if fullMillivolts ≤ mv then 100
  else if mv ≤ emptyMillivolts then 0
  else (mv - emptyMillivolts) * 100 / (fullMillivolts - emptyMillivolts)

abbrev RawReading := Option UInt16

/-- The cell voltage that the mean of the readings stands for; failed ones do not count. -/
def measure (readings : List RawReading) : Option Nat :=
  match readings.filterMap id with
  | [] => none
  | good => some (millivolts (good.foldl (fun sum r => sum + r.toNat) 0 / good.length))

/-- The reading that a cell voltage gives, as large as the converter allows. -/
def readingAt (mv : Nat) : UInt16 :=
  let scaled := mv / dividerRatio * largestReading
  UInt16.ofNat (min ((scaled + referenceMillivolts - 1) / referenceMillivolts) largestReading)

/-- Readings that are handed out in turn; the last one stays, and without any the read fails. -/
abbrev Supply := List RawReading

def Supply.read : Supply → RawReading × Supply
  | [] => (none, [])
  | [r] => (r, [r])
  | r :: rest => (r, rest)

def Supply.take : Nat → Supply → List RawReading × Supply
  | 0, s => ([], s)
  | n + 1, s =>
    let (r, s) := s.read
    let (rs, s) := Supply.take n s
    (r :: rs, s)

structure Gauge where
  supply : Supply
  minPercent : Nat
  level : Option Nat := none
  refreshedAt : Option Nat := none
  deriving DecidableEq, Repr

namespace Gauge

def levelRecord : Option Nat → Console.Record
  | none => .warn "battery: ADC read failed"
  | some mv =>
    .debug ("battery: " ++ toString mv ++ " mV (" ++ toString (Battery.percent mv) ++ "%)")

def refresh (g : Gauge) : Gauge × Console.Log :=
  let (readings, supply) := g.supply.take readingsPerMeasurement
  let level := measure readings
  ({ g with supply, level }, [levelRecord level])

def isDue (g : Gauge) (now : Nat) : Bool :=
  match g.refreshedAt with
  | none => true
  | some t => refreshInterval ≤ now - t

def poll (g : Gauge) (now : Nat) : Gauge × Console.Log :=
  if g.isDue now then
    let (g, log) := g.refresh
    ({ g with refreshedAt := some now }, log)
  else (g, [])

def percent (g : Gauge) : Nat :=
  match g.level with
  | none => 0
  | some mv => Battery.percent mv

def isSafe (g : Gauge) : Bool := g.level.isSome && g.minPercent ≤ g.percent

end Gauge

end DoughAnalyzer.Battery
