/-!
The decimal with the fewest digits that reads back as a given double. A finite positive double is
m · 2^q; the reals that round to it form an interval, whose ends belong to it when m is even. The
shortest decimal is found on the first grid of one, two, ... digits that has a point in the
interval, and is the point next to the value.
-/

namespace ODataAdapter

structure Decimal where
  digits : Nat
  exponent : Int
  deriving DecidableEq, Repr

structure Double where
  mantissa : Nat
  exponent : Int
  /-- The double is a power of two, and the gap below it is half the gap above. -/
  narrowBelow : Bool
  deriving DecidableEq, Repr

def scaled (number base : Nat) (exponent : Int) : Nat × Nat :=
  (number * Nat.pow base exponent.toNat, Nat.pow base (-exponent).toNat)

def compareFractions (left right : Nat × Nat) : Ordering :=
  compare (left.1 * right.2) (right.1 * left.2)

namespace Decimal

def trimZeros (decimal : Decimal) : Nat → Decimal
  | 0 => decimal
  | fuel + 1 =>
      if decimal.digits ≠ 0 && decimal.digits % 10 = 0 then
        trimZeros ⟨decimal.digits / 10, decimal.exponent + 1⟩ fuel
      else decimal

end Decimal

namespace Double

def ofBits (bits : UInt64) : Double :=
  let fraction := bits.toNat % Nat.pow 2 52
  let scale : Nat := bits.toNat / Nat.pow 2 52 % Nat.pow 2 11
  if scale = 0 then ⟨fraction, -1074, false⟩
  else ⟨fraction + Nat.pow 2 52, (scale : Int) - 1075, fraction = 0 && 1 < scale⟩

def admits (value : Double) (decimal : Decimal) : Bool :=
  let point := scaled decimal.digits 10 decimal.exponent
  let below := 4 * value.mantissa - (if value.narrowBelow then 1 else 2)
  let lower := compareFractions (scaled below 2 (value.exponent - 2)) point
  let upper := compareFractions point (scaled (4 * value.mantissa + 2) 2 (value.exponent - 2))
  let closed := value.mantissa % 2 = 0
  (lower = .lt || (lower = .eq && closed)) && (upper = .lt || (upper = .eq && closed))

def leadingExponent (value : Double) : Int :=
  let (numerator, denominator) := scaled value.mantissa 2 value.exponent
  ((Nat.toDigits 10 (numerator * Nat.pow 10 400 / denominator)).length : Int) - 401

/-- The neighbours of the value among the multiples of 10^k, the nearer one first; of two equally
near the even one. -/
def neighbours (value : Double) (exponent : Int) : Decimal × Decimal :=
  let (numerator, denominator) := scaled value.mantissa 2 value.exponent
  let (unit, part) := scaled 1 10 exponent
  let below := numerator * part / (denominator * unit)
  let rest := numerator * part % (denominator * unit)
  let lower : Decimal := ⟨below, exponent⟩
  let upper : Decimal := ⟨below + 1, exponent⟩
  match compare (2 * rest) (denominator * unit) with
  | .lt => (lower, upper)
  | .gt => (upper, lower)
  | .eq => if below % 2 = 0 then (lower, upper) else (upper, lower)

def onGrid? (value : Double) (exponent : Int) : Option Decimal :=
  let (nearer, farther) := value.neighbours exponent
  if value.admits nearer then some nearer
  else if value.admits farther then some farther
  else none

/-- The first grid with a point that rounds to the value gives the decimal; the one of seventeen
digits always has one. -/
def shortest (value : Double) : Decimal :=
  let leading := value.leadingExponent
  let found := (List.range 17).findSome? fun (count : Nat) => value.onGrid? (leading - count)
  (found.getD (value.neighbours (leading - 16)).1).trimZeros 20

end Double

end ODataAdapter
