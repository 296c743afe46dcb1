import SqlClauses.Registry.Keyword

set_option autoImplicit false

namespace SqlClauses

class HasOrdering (S : Type) where
  ordering : S → List String
  setOrdering : List String → S → S

def Clause.ordering {S : Type} [HasOrdering S] : Clause S :=
  .ofColumns "order_by" "ORDER BY" HasOrdering.ordering

end SqlClauses
