import DirectImports.Decimal.Binary64

/-!
# Shortest decimal text

The fewest decimal digits that round back to a given double: for one digit, two digits, and so
on up to seventeen, the two neighbours of the value on that decimal grid are compared with the
interval of reals that round to it; the first grid with a hit wins, and of two hits the nearer.
-/

namespace DirectImports.Decimal

/-- The interval of reals that round to a number, scaled by `4 / 2 ^ exponent` around the value
`4 * mantissa`; the ends belong to it exactly when the mantissa is even. -/
structure RoundingInterval where
  low : Nat
  value : Nat
  high : Nat
  closed : Bool

namespace Binary64

/-- The reals that round to a magnitude. Below a power of two the gap is half as wide. -/
def interval (x : Binary64) : RoundingInterval where
  low :=
    if x.mantissa = Nat.pow 2 52 ∧ leastExponent < x.exponent then 4 * x.mantissa - 1
    else 4 * x.mantissa - 2
  value := 4 * x.mantissa
  high := 4 * x.mantissa + 2
  closed := x.mantissa % 2 = 0

/-- `digits * 10 ^ power` compared on the scale of the interval: numerator and denominator. -/
def onScale (x : Binary64) (digits : Nat) (power : Int) : Nat × Nat :=
  (4 * digits * Nat.pow 10 power.toNat * Nat.pow 2 (-x.exponent).toNat,
    Nat.pow 10 (-power).toNat * Nat.pow 2 x.exponent.toNat)

/-- The decimal rounds to the number. -/
def accepts (x : Binary64) (digits : Nat) (power : Int) : Bool :=
  let (n, d) := x.onScale digits power
  let i := x.interval
  if i.closed then decide (i.low * d ≤ n) && decide (n ≤ i.high * d)
  else decide (i.low * d < n) && decide (n < i.high * d)

/-- How many decimal digits the integer part of a magnitude has, negative for leading zeros
after the point: `10 ^ (magnitude - 1) ≤ x < 10 ^ magnitude`. -/
def magnitude (x : Binary64) : Int :=
  let (n, d) := x.ratio
  if d ≤ n then (Nat.toDigits 10 (n / d)).length
  else
    let zeros := (Nat.toDigits 10 (d / n)).length
    let exact := if n * Nat.pow 10 (zeros - 1) ≥ d then zeros - 1 else zeros
    1 - (exact : Int)

/-- The better of the two neighbours on the grid of `count` digits, if one is accepted; a
neighbour with one digit more is a power of ten. -/
def onGrid (x : Binary64) (count : Nat) : Option (Nat × Int) :=
  let power := x.magnitude - count
  let (n, d) := x.ratio
  let (n, d) := (n * Nat.pow 10 (-power).toNat, d * Nat.pow 10 power.toNat)
  let below := n / d
  let nearest := roundDiv n d
  let farther := if nearest = below then below + 1 else below
  let carried := fun digits : Nat =>
    if digits = Nat.pow 10 count then (1, power + count) else (digits, power)
  if x.accepts nearest power then some (carried nearest)
  else if x.accepts farther power then some (carried farther)
  else none

/-- The fewest digits that read back, and the power of ten of the last one. -/
def shortest (x : Binary64) : Nat × Int :=
  ((List.range 17).findSome? fun n => x.onGrid (n + 1)).getD (0, 0)

end Binary64

/-- How a number is written out: which magnitudes are written positionally. -/
structure NumberFormat where
  leastPositional : Int
  greatestPositional : Int

/-- Numbers from `0.00001` up to sixteen integer digits are written positionally and keep a
decimal point; others have an exponent with its sign and at least two digits. -/
def plainNumber : NumberFormat := ⟨-4, 16⟩

/-- The text of a number. -/
def NumberFormat.render (format : NumberFormat) (x : Binary64) : String :=
  let sign := if x.negative then "-" else ""
  if x.mantissa = 0 then sign ++ "0.0"
  else
    let (value, power) := x.shortest
    let digits := Nat.toDigits 10 value
    let point := (digits.length : Int) + power
    if format.leastPositional ≤ point ∧ point ≤ format.greatestPositional then
      let (whole, fraction) :=
        if point ≤ 0 then (['0'], List.replicate (-point).toNat '0' ++ digits)
        else if power ≥ 0 then (digits ++ List.replicate power.toNat '0', ['0'])
        else digits.splitAt point.toNat
      sign ++ String.ofList whole ++ "." ++ String.ofList fraction
    else
      let exponent := point - 1
      let mantissa :=
        match digits with
        | first :: [] => [first]
        | first :: rest => first :: '.' :: rest
        | [] => []
      sign ++ String.ofList mantissa ++ (if exponent < 0 then "e-" else "e+")
        ++ paddedDigits 2 exponent.natAbs

end DirectImports.Decimal
