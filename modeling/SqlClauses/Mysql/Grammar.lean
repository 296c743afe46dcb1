import SqlClauses.Dialect
import SqlClauses.Mysql.Draft

set_option autoImplicit false

namespace SqlClauses.Mysql

def inherited (k : Kind) : Registry (Draft k) := (Statement.clauses k).comap Draft.base

-- None of these registrations is refused.
def clauses : (k : Kind) → Registry (Draft k)
  | .select =>
    ((inherited .select).afterwards "order_by" Clause.limit).afterwards "limit" Clause.offset
  | .insert =>
    ((inherited .insert).afterwards "insert" Clause.ignore).afterwards "values" Clause.upsert
  | .update =>
    ((inherited .update).afterwards "where" Clause.ordering).afterwards "order_by" Clause.limit
  | .delete =>
    ((inherited .delete).afterwards "where" Clause.ordering).afterwards "order_by" Clause.limit

structure Grammar where
  config : Config
  registry : (k : Kind) → Registry (Draft k)

namespace Grammar

def withConfig (config : Config) : Grammar := ⟨config, clauses⟩

def standard : Grammar := withConfig Dialect.mysql.config

def replace (g : Grammar) (k : Kind) (R : Registry (Draft k)) : Grammar where
  config := g.config
  registry other := if h : k = other then h ▸ R else g.registry other

@[simp] theorem config_replace (g : Grammar) (k : Kind) (R : Registry (Draft k)) :
    (g.replace k R).config = g.config := rfl

@[simp] theorem registry_replace_self (g : Grammar) (k : Kind) (R : Registry (Draft k)) :
    (g.replace k R).registry k = R := by
  simp [replace]

theorem registry_replace_of_ne (g : Grammar) {k other : Kind} (R : Registry (Draft k))
    (h : k ≠ other) : (g.replace k R).registry other = g.registry other := by
  simp [replace, h]

def register (g : Grammar) (k : Kind) (anchor : String) (c : Clause (Draft k)) :
    Except RegistrationError Grammar :=
  ((g.registry k).insertAfter anchor c).map (g.replace k)

end Grammar

structure Builder (k : Kind) where
  draft : Draft k
  grammar : Grammar

namespace Builder

variable {k : Kind}

def edit (b : Builder k) (e : Draft.Edit k) : Builder k :=
  { b with draft := b.draft.edit e }

def toSql (b : Builder k) : String :=
  (b.grammar.registry k).toSql b.grammar.config b.draft

def prepare (b : Builder k) : Prepared :=
  (b.grammar.registry k).prepare b.grammar.config b.draft

end Builder

def Grammar.build (g : Grammar) (table : String) (columns : List String) (k : Kind) : Builder k :=
  ⟨Draft.new table columns k, g⟩

end SqlClauses.Mysql
