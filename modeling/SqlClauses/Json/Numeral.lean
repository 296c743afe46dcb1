import SqlClauses.Decimal.Notation

set_option autoImplicit false

namespace SqlClauses.Json

structure Exponent where
  negative : Bool
  digits : List Char
deriving DecidableEq

structure Numeral where
  negative : Bool
  whole : List Char
  fraction : List Char := []
  exponent : Option Exponent := none
deriving DecidableEq

def digitValue (c : Char) : Nat := c.toNat - 48

def digitsValue (digits : List Char) : Nat :=
  digits.foldl (fun n c => 10 * n + digitValue c) 0

def Exponent.value (e : Exponent) : Int :=
  if e.negative then -(digitsValue e.digits : Int) else digitsValue e.digits

namespace Numeral

def wordLimit : Nat := 0x10000000000000000

def wholeWord : List Char → Nat → Nat → Nat × Nat
  | [], word, dropped => (word, dropped)
  | c :: rest, word, dropped =>
    if dropped = 0 ∧ 10 * word + digitValue c < wordLimit then
      wholeWord rest (10 * word + digitValue c) 0
    else wholeWord rest word (dropped + 1)

def fractionWord : List Char → Nat → Nat → Nat × Nat
  | [], word, places => (word, places)
  | c :: rest, word, places =>
    if 10 * word + digitValue c < wordLimit then
      fractionWord rest (10 * word + digitValue c) (places + 1)
    else (word, places)

def powerOfTen (n : Nat) : Float := Float.ofScientific 1 false n

def shrink (x : Float) (places : Nat) : Float :=
  if places ≤ 308 then x / powerOfTen places
  else if x == 0 then x
  else shrink (x / powerOfTen 308) (places - 308)
termination_by places

def scale (x : Float) (exponent : Int) : Option Float :=
  if exponent < 0 then some (shrink x exponent.natAbs)
  else if exponent ≤ 308 then
    let y := x * powerOfTen exponent.natAbs
    if y.isInf then none else some y
  else if x == 0 then some x
  else none

def magnitude (n : Numeral) : Option Float :=
  let (word, dropped) := wholeWord n.whole 0 0
  let (word, places) := fractionWord n.fraction word 0
  let exponent := (n.exponent.map Exponent.value).getD 0
  scale word.toUInt64.toFloat (dropped - places + exponent)

def double (n : Numeral) : Option Float :=
  n.magnitude.map fun x => if n.negative then -x else x

def finiteText (d : Decimal) : String :=
  if d.leading < -5 ∨ 16 ≤ d.leading then d.scientific
  else if d.exponent < 0 then d.positional
  else d.positional ++ ".0"

def doubleText (x : Float) : Option String :=
  match Decimal.Double.ofBits x.toBits with
  | .nan => none
  | .infinite _ => none
  | .zero negative => some (Decimal.sign negative ++ "0.0")
  | .nonzero negative magnitude =>
    some (Decimal.sign negative ++ finiteText (Decimal.shortest .toEven magnitude))

def isInteger (n : Numeral) : Bool := n.fraction.isEmpty && n.exponent.isNone

def text (n : Numeral) : Option String :=
  let whole := digitsValue n.whole
  if n.isInteger && !n.negative && whole < wordLimit then some (toString whole)
  else if n.isInteger && n.negative && 0 < whole && 2 * whole ≤ wordLimit then
    some ("-" ++ toString whole)
  else n.double.bind doubleText

end Numeral

end SqlClauses.Json
