import SqlClauses.Registry.Keyword

set_option autoImplicit false

namespace SqlClauses

structure Insert where
  table : String
  columns : List String := []
  rows : List (List Value) := []

namespace Insert

inductive Edit where
  | columns (names : List String)
  | row (values : List Value)
  | rows (rows : List (List Value))

def edit (s : Insert) : Edit → Insert
  | .columns names => { s with columns := names }
  | .row values => { s with rows := s.rows ++ [values] }
  | .rows rows => { s with rows := s.rows ++ rows }

def head : Clause Insert where
  name := "insert"
  renderer _ := return some "INSERT"

def target : Clause Insert where
  name := "into"
  renderer s := do
    let table ← Render.column s.table
    match ← Render.columns s.columns with
    | none => return some ("INTO " ++ table)
    | some list => return some ("INTO " ++ table ++ " (" ++ list ++ ")")

def row (values : List Value) : Render String :=
  return "(" ++ ", ".intercalate (← values.mapM Render.value) ++ ")"

def values : Clause Insert where
  name := "values"
  renderer s :=
    if s.rows.isEmpty then return none
    else return some ("VALUES " ++ ", ".intercalate (← s.rows.mapM row))

def clauses : Registry Insert where
  kind := .insert
  clauses := [head, target, values]

end Insert

end SqlClauses
