import SqlClauses.Decimal.Shortest

set_option autoImplicit false

namespace SqlClauses.Decimal

def zeros (count : Nat) : String :=
  String.ofList (List.replicate count '0')

def positional (d : Decimal) : String :=
  let digits := Nat.toDigits 10 d.digits
  let places := (-d.exponent).toNat
  if places = 0 then String.ofList digits ++ zeros d.exponent.toNat
  else if places < digits.length then
    let whole := digits.length - places
    String.ofList (digits.take whole) ++ "." ++ String.ofList (digits.drop whole)
  else "0." ++ zeros (places - digits.length) ++ String.ofList digits

def leading (d : Decimal) : Int :=
  (digitCount d.digits : Int) + d.exponent - 1

def signed (exponent : Int) : String :=
  if exponent < 0 then "-" ++ toString exponent.natAbs else "+" ++ toString exponent.natAbs

def scientific (d : Decimal) : String :=
  let digits := Nat.toDigits 10 d.digits
  let mantissa :=
    if digits.length = 1 then String.ofList digits
    else String.ofList (digits.take 1) ++ "." ++ String.ofList (digits.drop 1)
  mantissa ++ "e" ++ signed d.leading

def sign (negative : Bool) : String :=
  if negative then "-" else ""

end SqlClauses.Decimal
