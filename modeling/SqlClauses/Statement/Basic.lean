import SqlClauses.Registry.Render
import SqlClauses.Statement.Delete
import SqlClauses.Statement.Insert
import SqlClauses.Statement.Select
import SqlClauses.Statement.Update

set_option autoImplicit false

namespace SqlClauses

@[reducible] def Statement : Kind → Type
  | .select => Select
  | .insert => Insert
  | .update => Update
  | .delete => Delete

namespace Statement

@[reducible] def Edit : Kind → Type
  | .select => Select.Edit
  | .insert => Insert.Edit
  | .update => Update.Edit
  | .delete => Delete.Edit

def new (table : String) (columns : List String) : (k : Kind) → Statement k
  | .select => {}
  | .insert => { table := table, columns := columns }
  | .update => { table := table }
  | .delete => { table := table }

def edit : {k : Kind} → Statement k → Edit k → Statement k
  | .select, s, e => Select.edit s e
  | .insert, s, e => Insert.edit s e
  | .update, s, e => Update.edit s e
  | .delete, s, e => Delete.edit s e

def clauses : (k : Kind) → Registry (Statement k)
  | .select => Select.clauses
  | .insert => Insert.clauses
  | .update => Update.clauses
  | .delete => Delete.clauses

def toSql {k : Kind} (s : Statement k) (config : Config := .standard) : String :=
  (clauses k).toSql config s

def prepare {k : Kind} (s : Statement k) (config : Config := .standard) : Prepared :=
  (clauses k).prepare config s

end Statement

end SqlClauses
