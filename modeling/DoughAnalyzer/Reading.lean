set_option autoImplicit false

namespace DoughAnalyzer

/-- Air temperature in °C, relative humidity in percent, and the rise of the dough in percent of the
distance at which the surface first stood. -/
structure Reading where
  temperature : Float32
  humidity : Float32
  rise : Float32

end DoughAnalyzer
