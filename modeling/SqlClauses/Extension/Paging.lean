import SqlClauses.Registry.Basic

set_option autoImplicit false

namespace SqlClauses

class HasLimit (S : Type) where
  limit : S → Option Nat
  setLimit : Option Nat → S → S

class HasOffset (S : Type) where
  offset : S → Option Nat
  setOffset : Option Nat → S → S

namespace Clause

variable {S : Type}

def ofCount (name keyword : String) (count : S → Option Nat) : Clause S where
  name := name
  renderer s :=
    match count s with
    | none => return none
    | some 0 => return none
    | some n => return some (keyword ++ " " ++ toString n)

def limit [HasLimit S] : Clause S := ofCount "limit" "LIMIT" HasLimit.limit

def offset [HasOffset S] : Clause S := ofCount "offset" "OFFSET" HasOffset.offset

end Clause

end SqlClauses
