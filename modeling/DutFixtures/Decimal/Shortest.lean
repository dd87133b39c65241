import DutFixtures.Decimal.Binary64

namespace DutFixtures

/-- The bounds of the numbers that round to a positive double, all over one
denominator: lower bound, value, upper bound, denominator. -/
def Binary64.interval (x : Binary64) : Nat × Nat × Nat × Nat :=
  let atPower := x.mantissa = Nat.pow 2 52 ∧ -1074 < x.exponent
  let below := if atPower then 4 * x.mantissa - 1 else 4 * x.mantissa - 2
  let scale := scaleDown 1 4 (-x.exponent)
  (below * scale.1, 4 * x.mantissa * scale.1, (4 * x.mantissa + 2) * scale.1, scale.2)

/-- Whether `n * 10 ^ power` rounds to the double. The ends of the interval count
when the mantissa is even. -/
def Binary64.reads (x : Binary64) (n : Nat) (power : Int) : Bool :=
  let (low, _, high, den) := x.interval
  let grid := if power < 0 then (1, Nat.pow 10 power.natAbs) else (Nat.pow 10 power.natAbs, 1)
  let point := n * grid.1 * den
  let low := low * grid.2
  let high := high * grid.2
  if x.mantissa % 2 = 0 then low ≤ point && point ≤ high else low < point && point < high

/-- The point of the grid of `10 ^ power` that is nearest to the double among its
two neighbours there, provided that it rounds to the double. -/
def Binary64.onGrid (x : Binary64) (power : Int) : Option Nat :=
  let (_, value, _, den) := x.interval
  let grid := if power < 0 then (1, Nat.pow 10 power.natAbs) else (Nat.pow 10 power.natAbs, 1)
  let num := value * grid.2
  let step := grid.1 * den
  let near := roundHalfEven num step
  let floor := num / step
  let far := if near = floor then floor + 1 else floor
  if x.reads near power then some near else if x.reads far power then some far else none

/-- An upper bound on the power of ten just above the double. -/
def Binary64.topPower (x : Binary64) : Int :=
  ((Nat.log2 x.mantissa : Int) + 1 + x.exponent) * 30103 / 100000 + 1

/-- The first grid, from coarse to fine, that has a point for the double. -/
def Binary64.search (x : Binary64) : Nat → Int → Nat × Int
  | 0, power => ((x.onGrid power).getD 0, power)
  | fuel + 1, power =>
    match x.onGrid power with
    | some n => if n = 0 then x.search fuel (power - 1) else (n, power)
    | none => x.search fuel (power - 1)

/-- The fewest digits that read back as the double, and of those the nearest. -/
def Binary64.shortest (x : Binary64) : Nat × Int :=
  if x.mantissa = 0 then (0, 0) else x.search 20 x.topPower

/-- Drops the zeros at the end of a coefficient and counts them into the power. -/
def dropZeros : Nat → Nat × Int → Nat × Int
  | 0, p => p
  | fuel + 1, (n, power) =>
    if n ≠ 0 ∧ n % 10 = 0 then dropZeros fuel (n / 10, power + 1) else (n, power)

/-- Numbers are written positionally from `1e-5` up to sixteen places before the point,
and scientifically outside of that range. `lead` is the place of the first digit. -/
def isPositional (lead : Int) : Bool :=
  -5 ≤ lead && lead ≤ 15

/-- The place of the first digit of `n * 10 ^ power`. -/
def leadOf (n : Nat) (power : Int) : Int :=
  ((Nat.toDigits 10 n).length : Int) - 1 + power

/-- Digits and power of ten as text: always with a point if the text is positional,
and else with a signed exponent. -/
def decimalText (n : Nat) (power : Int) : String :=
  let digits := Nat.toDigits 10 n
  let lead := leadOf n power
  if n = 0 then "0.0"
  else if isPositional lead then
    if 0 ≤ power then
      String.ofList (digits ++ List.replicate power.natAbs '0' ++ ['.', '0'])
    else if 0 ≤ lead then
      let whole := lead.natAbs + 1
      String.ofList (digits.take whole ++ '.' :: digits.drop whole)
    else
      String.ofList (['0', '.'] ++ List.replicate (lead.natAbs - 1) '0' ++ digits)
  else
    let fraction := if digits.length = 1 then [] else '.' :: digits.drop 1
    String.ofList (digits.take 1 ++ fraction ++ 'e' :: (if lead < 0 then '-' else '+') ::
      Nat.toDigits 10 lead.natAbs)

/-- The fewest digits of the double that a written number stands for, without zeros at
their end, and the power of ten of the last one. -/
def Decimal.digits (d : Decimal) : Nat × Int :=
  dropZeros 400 d.toBinary64.shortest

/-- A written number as the text of the double that it stands for. -/
def Decimal.text (d : Decimal) : String :=
  (if d.negative then "-" else "") ++ decimalText d.digits.1 d.digits.2

/-- A number as it stands in a document that was read and written anew. A whole number
ends in a zero behind its point. -/
def Decimal.rewritten (d : Decimal) : Decimal :=
  let (n, power) := d.digits
  if 0 ≤ power ∧ isPositional (leadOf n power) then
    ⟨d.negative, n * Nat.pow 10 (power.natAbs + 1), -1⟩
  else ⟨d.negative, n, power⟩

end DutFixtures
