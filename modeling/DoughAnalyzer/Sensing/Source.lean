import DoughAnalyzer.Fault

set_option autoImplicit false

namespace DoughAnalyzer.Sensing

/-- One raw read: temperature in °C, humidity in percent, and the distance to the dough in
millimetres unless that sensor timed out. -/
structure Sample where
  temperature : Float32
  humidity : Float32
  distance : Option UInt16

abbrev Read := Except SensorError Sample

def nearest : UInt16 := 20

def farthest : UInt16 := 2000

structure Dough where
  reads : UInt32 := 0
  temperature : Float32 := 22
  humidity : Float32 := 65
  distance : UInt16 := 500

/-- Fifty reads bring the surface one millimetre nearer, though never out of range. -/
def Dough.read (d : Dough) : Sample × Dough :=
  let d := { d with reads := d.reads + 1 }
  let creep := (d.reads / 50).toUInt16
  let distance := if d.distance ≤ creep then 0 else d.distance - creep
  (⟨d.temperature, d.humidity, some (if distance ≤ nearest then nearest + 1 else distance)⟩, d)

inductive Source where
  | unfitted
  | synthetic (dough : Dough)
  | scripted (reads : List Read)

namespace Source

def read : Source → Read × Source
  | unfitted => (.error .notFitted, unfitted)
  | synthetic dough =>
    let (sample, dough) := dough.read
    (.ok sample, synthetic dough)
  | scripted [] => (.error .readFailed, scripted [])
  | scripted (r :: rest) => (r, scripted rest)

def take : Nat → Source → List Read × Source
  | 0, s => ([], s)
  | n + 1, s =>
    let (r, s) := s.read
    let (rs, s) := take n s
    (r :: rs, s)

end Source

end DoughAnalyzer.Sensing
