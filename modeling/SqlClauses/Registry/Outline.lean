import SqlClauses.Registry.Basic
import SqlClauses.Text.Shapeless

set_option autoImplicit false

namespace SqlClauses

namespace Outline

def character (c : Char) : List Char :=
  match c with
  | '"' => ['\\', '"']
  | '\\' => ['\\', '\\']
  | '\n' => ['\\', 'n']
  | '\r' => ['\\', 'r']
  | '\t' => ['\\', 't']
  | '\x00' => ['\\', '0']
  | c =>
    if Text.isShapeless c then
      '\\' :: 'u' :: '\x7b' :: (Nat.toDigits 16 c.toNat ++ ['\x7d'])
    else [c]

def quoted (name : String) : String :=
  String.ofList ('"' :: (name.toList.flatMap character ++ ['"']))

end Outline

def Registry.outline {S : Type} (R : Registry S) : String :=
  "ClauseRegistry \x7b kind: " ++ R.kind.name ++ ", clauses: [" ++
    ", ".intercalate (R.names.map fun name => "Clause(" ++ Outline.quoted name ++ ")") ++ "] \x7d"

end SqlClauses
