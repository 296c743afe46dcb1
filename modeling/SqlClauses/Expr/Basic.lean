import SqlClauses.Value

set_option autoImplicit false

namespace SqlClauses

structure Column where
  table : Option String := none
  name : String
deriving DecidableEq

-- These and IS [NOT] NULL are the operators that the methods of a column write. A comparison built by
-- hand could hold any other fixed text, which is left out: like raw text, it could mean anything.
inductive Comparison where
  | eq
  | ne
  | lt
  | le
  | gt
  | ge
  | like
  | notLike
deriving DecidableEq

def Comparison.symbol : Comparison → String
  | .eq => "="
  | .ne => "!="
  | .lt => "<"
  | .le => "<="
  | .gt => ">"
  | .ge => ">="
  | .like => "LIKE"
  | .notLike => "NOT LIKE"

inductive Expr where
  | compare (column : Column) (op : Comparison) (value : Value)
  | isNull (column : Column) (negated : Bool)
  | between (column : Column) (negated : Bool) (low high : Value)
  | inList (column : Column) (negated : Bool) (values : List Value)
  | all (items : List Expr)
  | any (items : List Expr)
  | not (inner : Expr)
  | raw (sql : String)

namespace Expr

def and : Expr → Expr → Expr
  | .all items, other => .all (items ++ [other])
  | first, other => .all [first, other]

def or : Expr → Expr → Expr
  | .any items, other => .any (items ++ [other])
  | first, other => .any [first, other]

def addTo : Option Expr → Expr → Expr
  | none, e => e
  | some earlier, e => earlier.and e

end Expr

end SqlClauses
