import LoadHarness.Text.Numeral

/-!
# Percentages

A share of a whole is computed in 64-bit floating point and written with two decimal
places. `dyadic` takes a floating-point number apart into an integer times a power of two,
so that the places written are those of the exact binary value, correctly rounded.
-/

namespace LoadHarness.Text

/-- A finite non-negative floating-point number as `m / 2 ^ k` or `m * 2 ^ k`: the triple of
`m`, the power of two it is multiplied by and the one it is divided by. -/
def dyadic (x : Float) : Nat × Nat × Nat :=
  let bits := x.toBits.toNat
  let exponent := (bits >>> 52) % 2048
  let fraction := bits % 0x10000000000000
  if exponent = 0 then (fraction, 0, 1074)
  else (0x10000000000000 + fraction, exponent - 1075, 1075 - exponent)

/-- A finite non-negative floating-point number with two decimal places. -/
def twoPlaces (x : Float) : String :=
  let (m, up, down) := dyadic x
  hundredths (quotientToEven ((100 * m) <<< up) (1 <<< down))

/-- The share of `whole` that `part` is, as a percentage with two decimal places. -/
def percentage (part whole : Nat) : String :=
  twoPlaces (part.toUInt64.toFloat * 100.0 / whole.toUInt64.toFloat)

end LoadHarness.Text
