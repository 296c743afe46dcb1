set_option autoImplicit false

namespace SqlClauses

structure Decimal where
  digits : Nat
  exponent : Int
deriving DecidableEq

namespace Decimal

inductive Tie where
  | toEven
  | away
deriving DecidableEq

def Tie.up : Tie → Nat → Bool
  | .toEven, below => below % 2 == 1
  | .away, _ => true

-- A positive binary number `significand * 2 ^ exponent`. The distance to the next smaller number is
-- half the distance to the next larger one when `narrowBelow` holds.
structure Binary where
  significand : Nat
  exponent : Int
  narrowBelow : Bool
deriving DecidableEq

def digitCount (n : Nat) : Nat :=
  (Nat.toDigits 10 n).length

def decade (numerator denominator : Nat) : Int :=
  if denominator ≤ numerator then
    (digitCount (numerator / denominator) : Int) - 1
  else
    -(digitCount ((denominator - 1) / numerator) : Int)

-- The point of the grid `10 ^ scale` nearest to the number, if one reads back as it. A quarter of
-- the number's last binary place is `unit / grid` points of the grid.
def onGrid (tie : Tie) (x : Binary) (scale : Int) : Option Decimal :=
  let unit := Nat.pow 2 (x.exponent - 2).toNat * Nat.pow 10 (-scale).toNat
  let grid := Nat.pow 2 (2 - x.exponent).toNat * Nat.pow 10 scale.toNat
  let value := 4 * x.significand * unit
  let lowest := (4 * x.significand - if x.narrowBelow then 1 else 2) * unit
  let highest := (4 * x.significand + 2) * unit
  let readsBack (n : Nat) : Bool :=
    if x.significand % 2 = 0 then lowest ≤ n * grid && n * grid ≤ highest
    else lowest < n * grid && n * grid < highest
  let below := value / grid
  let above := below + 1
  match readsBack below, readsBack above with
  | false, false => none
  | true, false => some ⟨below, scale⟩
  | false, true => some ⟨above, scale⟩
  | true, true =>
    let remainder := value - below * grid
    if 2 * remainder < grid || 2 * remainder = grid && !tie.up below then some ⟨below, scale⟩
    else some ⟨above, scale⟩

-- The shortest numeral of a binary number, the nearest of the shortest ones, and of two such the
-- one that `tie` names. Seventeen digits always suffice for 53 binary ones.
def shortest (tie : Tie) (x : Binary) : Decimal :=
  let top :=
    decade (x.significand * Nat.pow 2 x.exponent.toNat) (Nat.pow 2 (-x.exponent).toNat)
  ((List.range 18).findSome? fun (places : Nat) => onGrid tie x (top + 1 - places)).getD ⟨0, 0⟩

inductive Double where
  | nan
  | infinite (negative : Bool)
  | zero (negative : Bool)
  | nonzero (negative : Bool) (magnitude : Binary)
deriving DecidableEq

def Double.unit : Nat := 0x10000000000000

def Double.ofBits (bits : UInt64) : Double :=
  let negative : Bool := bits.toNat / (2048 * unit) == 1
  let biased : Nat := bits.toNat / unit % 2048
  let fraction : Nat := bits.toNat % unit
  if biased = 2047 then
    if fraction = 0 then .infinite negative else .nan
  else if biased = 0 then
    if fraction = 0 then .zero negative
    else .nonzero negative ⟨fraction, -1074, false⟩
  else .nonzero negative ⟨unit + fraction, (biased : Int) - 1075, fraction == 0 && 1 < biased⟩

end Decimal

end SqlClauses
