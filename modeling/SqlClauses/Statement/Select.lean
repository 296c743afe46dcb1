import SqlClauses.Registry.Keyword

set_option autoImplicit false

namespace SqlClauses

inductive Join.Side where
  | inner
  | left
  | right
deriving DecidableEq

def Join.Side.keyword : Join.Side → String
  | .inner => "INNER JOIN "
  | .left => "LEFT JOIN "
  | .right => "RIGHT JOIN "

inductive Join where
  | on (side : Join.Side) (table condition : String)
  | cross (table : String)
deriving DecidableEq

def Join.text (config : Config) : Join → String
  | .on side table condition => side.keyword ++ config.column table ++ " ON " ++ condition
  | .cross table => "CROSS JOIN " ++ config.column table

structure Select where
  columns : List String := []
  distinct : Bool := false
  tables : List String := []
  joins : List Join := []
  condition : Option Expr := none
  grouping : List String := []
  having : Option Expr := none
  ordering : List String := []

namespace Select

inductive Edit where
  | columns (names : List String)
  | distinct
  | table (name : String)
  | join (j : Join)
  | condition (e : Expr)
  | grouping (names : List String)
  | having (e : Expr)
  | ordering (names : List String)

def edit (s : Select) : Edit → Select
  | .columns names => { s with columns := names }
  | .distinct => { s with distinct := true }
  | .table name => { s with tables := s.tables ++ [name] }
  | .join j => { s with joins := s.joins ++ [j] }
  | .condition e => { s with condition := some (Expr.addTo s.condition e) }
  | .grouping names => { s with grouping := names }
  | .having e => { s with having := some (Expr.addTo s.having e) }
  | .ordering names => { s with ordering := names }

def columnsText (config : Config) : List String → String
  | [] => "*"
  | names => ", ".intercalate (names.map config.column)

def head : Clause Select where
  name := "select"
  renderer s :=
    return some ("SELECT " ++ (if s.distinct then "DISTINCT " else "") ++
      columnsText (← Render.config) s.columns)

def joined : Clause Select where
  name := "join"
  renderer s :=
    if s.joins.isEmpty then return none
    else return some (" ".intercalate (s.joins.map (Join.text (← Render.config))))

def clauses : Registry Select where
  kind := .select
  clauses :=
    [head,
      .ofColumns "from" "FROM" tables,
      joined,
      .ofCondition "where" "WHERE" condition,
      .ofColumns "group_by" "GROUP BY" grouping,
      .ofCondition "having" "HAVING" having,
      .ofColumns "order_by" "ORDER BY" ordering]

end Select

end SqlClauses
