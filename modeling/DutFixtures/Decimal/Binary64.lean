namespace DutFixtures

/-- A decimal number as it is written: sign, digits and a power of ten. Equal
values may be written differently, as `1.0` and `10e-1`, and stay apart here. -/
structure Decimal where
  negative : Bool
  coefficient : Nat
  exponent : Int
  deriving DecidableEq, Repr

/-- Integers that fit into 64 bits, with or without a sign. -/
def isWordSized (n : Int) : Bool :=
  -(Nat.pow 2 63 : Int) ≤ n && n < Nat.pow 2 64

/-- An integer as the floating point number that it stands for. -/
def Decimal.ofInt (n : Int) : Decimal :=
  ⟨n < 0, n.natAbs, 0⟩

/-- The magnitude `mantissa * 2 ^ exponent` of a double-precision number. -/
structure Binary64 where
  mantissa : Nat
  exponent : Int
  deriving DecidableEq, Repr

/-- The quotient to the nearest natural number, a half to the even one. -/
def roundHalfEven (num den : Nat) : Nat :=
  let q := num / den
  let twice := 2 * (num % den)
  if twice < den then q
  else if den < twice then q + 1
  else if q % 2 = 0 then q
  else q + 1

/-- The quotient `num / den` divided by a power of two, as numerator and denominator. -/
def scaleDown (num den : Nat) (power : Int) : Nat × Nat :=
  if power < 0 then (num * Nat.pow 2 power.natAbs, den)
  else (num, den * Nat.pow 2 power.natAbs)

/-- The double nearest to a quotient: 53 significant bits, fewer below the
normal range, whose last bit weighs `2 ^ -1074`. -/
def Binary64.nearest (num den : Nat) : Binary64 :=
  if num = 0 then ⟨0, -1074⟩
  else
    let low := (Nat.log2 num : Int) - (Nat.log2 den : Int) - 53
    let scaled := scaleDown num den low
    let fit := if Nat.pow 2 53 ≤ scaled.1 / scaled.2 then low + 1 else low
    let unit := max fit (-1074)
    let final := scaleDown num den unit
    let m := roundHalfEven final.1 final.2
    if m = Nat.pow 2 53 then ⟨Nat.pow 2 52, unit + 1⟩ else ⟨m, unit⟩

/-- A double as an exact quotient. -/
def Binary64.ratio (x : Binary64) : Nat × Nat :=
  scaleDown x.mantissa 1 (-x.exponent)

def Binary64.mul (x y : Binary64) : Binary64 :=
  nearest (x.ratio.1 * y.ratio.1) (x.ratio.2 * y.ratio.2)

def Binary64.div (x y : Binary64) : Binary64 :=
  nearest (x.ratio.1 * y.ratio.2) (x.ratio.2 * y.ratio.1)

/-- The leading digits of a coefficient that fit into 64 bits, and how many
digits are left out behind them. `fuel` bounds the digits that are dropped. -/
def leadingDigits : Nat → Nat → Nat × Nat
  | 0, n => (n, 0)
  | fuel + 1, n =>
    if n < Nat.pow 2 64 then (n, 0)
    else let (lead, dropped) := leadingDigits fuel (n / 10); (lead, dropped + 1)

/-- Divides by ten to the given power, 308 powers at a time. -/
def Binary64.shiftRight : Nat → Binary64 → Nat → Binary64
  | 0, x, _ => x
  | fuel + 1, x, power =>
    if power ≤ 308 then x.div (nearest (Nat.pow 10 power) 1)
    else shiftRight fuel (x.div (nearest (Nat.pow 10 308) 1)) (power - 308)

/-- The double that a written number stands for. The digits, the power of ten and
their product or quotient are rounded one after the other. -/
def Decimal.toBinary64 (d : Decimal) : Binary64 :=
  let (lead, dropped) := leadingDigits (Nat.log2 d.coefficient) d.coefficient
  let power := d.exponent + dropped
  let digits := Binary64.nearest lead 1
  if 0 ≤ power then digits.mul (Binary64.nearest (Nat.pow 10 power.natAbs) 1)
  else digits.shiftRight (power.natAbs / 308 + 1) power.natAbs

end DutFixtures
