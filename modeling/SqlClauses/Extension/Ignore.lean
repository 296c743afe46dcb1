import SqlClauses.Registry.Basic

set_option autoImplicit false

namespace SqlClauses

class HasIgnore (S : Type) where
  ignored : S → Bool
  setIgnored : S → S

def Clause.ignore {S : Type} [HasIgnore S] : Clause S where
  name := "ignore"
  renderer s := return if HasIgnore.ignored s then some "IGNORE" else none

end SqlClauses
