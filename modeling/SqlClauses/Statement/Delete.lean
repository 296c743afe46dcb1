import SqlClauses.Registry.Keyword

set_option autoImplicit false

namespace SqlClauses

structure Delete where
  table : String
  condition : Option Expr := none

namespace Delete

inductive Edit where
  | condition (e : Expr)

def edit (s : Delete) : Edit → Delete
  | .condition e => { s with condition := some (Expr.addTo s.condition e) }

def head : Clause Delete where
  name := "delete"
  renderer s := return some ("DELETE FROM " ++ (← Render.column s.table))

def clauses : Registry Delete where
  kind := .delete
  clauses := [head, .ofCondition "where" "WHERE" condition]

end Delete

end SqlClauses
