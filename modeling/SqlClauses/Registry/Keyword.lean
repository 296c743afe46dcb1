import SqlClauses.Expr.Render
import SqlClauses.Registry.Basic

set_option autoImplicit false

namespace SqlClauses.Clause

variable {S : Type}

def ofCondition (name keyword : String) (condition : S → Option Expr) : Clause S where
  name := name
  renderer s := do
    match condition s with
    | none => return none
    | some e => return some (keyword ++ " " ++ (← Render.expr e))

def ofColumns (name keyword : String) (columns : S → List String) : Clause S where
  name := name
  renderer s := return (← Render.columns (columns s)).map fun list => keyword ++ " " ++ list

end SqlClauses.Clause
