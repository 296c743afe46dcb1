import SqlClauses.Decimal.Notation
import SqlClauses.Quoted

set_option autoImplicit false

namespace SqlClauses

inductive Value where
  | null
  | bool (b : Bool)
  | int (n : Int64)
  | float (x : Float)
  | text (s : String)
  | blob (bytes : List UInt8)
deriving BEq

namespace Value

def upperHexDigit (n : Nat) : Char :=
  if n < 10 then Char.ofNat (48 + n) else Char.ofNat (55 + n)

def hexByte (byte : UInt8) : List Char :=
  [upperHexDigit (byte.toNat / 16), upperHexDigit (byte.toNat % 16)]

-- Floats are written positionally with the fewest digits that read back. A tie between two such
-- numerals goes away from zero.
def floatLiteral (x : Float) : String :=
  match Decimal.Double.ofBits x.toBits with
  | .nan => "NaN"
  | .infinite negative => Decimal.sign negative ++ "inf"
  | .zero negative => Decimal.sign negative ++ "0"
  | .nonzero negative magnitude =>
    Decimal.sign negative ++ (Decimal.shortest .away magnitude).positional

def literal : Value → String
  | .null => "NULL"
  | .bool true => "TRUE"
  | .bool false => "FALSE"
  | .int n => toString n.toInt
  | .float x => floatLiteral x
  | .text s => Quoted.encode '\'' s
  | .blob bytes => "X" ++ Quoted.encode '\'' (String.ofList (bytes.flatMap hexByte))

instance : ToString Value := ⟨literal⟩

end Value

class ToValue (α : Type) where
  toValue : α → Value

export ToValue (toValue)

instance : ToValue Value := ⟨id⟩
instance : ToValue Bool := ⟨.bool⟩
instance : ToValue Int8 := ⟨fun n => .int n.toInt64⟩
instance : ToValue Int16 := ⟨fun n => .int n.toInt64⟩
instance : ToValue Int32 := ⟨fun n => .int n.toInt64⟩
instance : ToValue Int64 := ⟨.int⟩
instance : ToValue UInt8 := ⟨fun n => .int (Int64.ofNat n.toNat)⟩
instance : ToValue UInt16 := ⟨fun n => .int (Int64.ofNat n.toNat)⟩
instance : ToValue UInt32 := ⟨fun n => .int (Int64.ofNat n.toNat)⟩
instance : ToValue Float32 := ⟨fun x => .float x.toFloat⟩
instance : ToValue Float := ⟨.float⟩
instance : ToValue String := ⟨.text⟩
instance : ToValue (List UInt8) := ⟨.blob⟩

instance {α : Type} [ToValue α] : ToValue (Option α) :=
  ⟨fun x => (x.map toValue).getD .null⟩

end SqlClauses
