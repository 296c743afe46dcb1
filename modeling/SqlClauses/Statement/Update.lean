import SqlClauses.Registry.Keyword

set_option autoImplicit false

namespace SqlClauses

inductive Assigned where
  | value (v : Value)
  | raw (sql : String)

structure Assignment where
  column : String
  assigned : Assigned

def Assignment.render (a : Assignment) : Render String := do
  let column ← Render.column a.column
  match a.assigned with
  | .value v => return column ++ " = " ++ (← Render.value v)
  | .raw sql => return column ++ " = " ++ sql

structure Update where
  table : String
  assignments : List Assignment := []
  condition : Option Expr := none

namespace Update

inductive Edit where
  | assign (a : Assignment)
  | condition (e : Expr)

def edit (s : Update) : Edit → Update
  | .assign a => { s with assignments := s.assignments ++ [a] }
  | .condition e => { s with condition := some (Expr.addTo s.condition e) }

def head : Clause Update where
  name := "update"
  renderer s := return some ("UPDATE " ++ (← Render.column s.table))

def assigned : Clause Update where
  name := "set"
  renderer s :=
    if s.assignments.isEmpty then return none
    else return some ("SET " ++ ", ".intercalate (← s.assignments.mapM Assignment.render))

def clauses : Registry Update where
  kind := .update
  clauses := [head, assigned, .ofCondition "where" "WHERE" condition]

end Update

end SqlClauses
