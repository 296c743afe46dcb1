import SqlClauses.Expr.Basic
import SqlClauses.Context

set_option autoImplicit false

namespace SqlClauses

-- Whether the condition needs parentheses inside another one.
def Expr.isGroup : Expr → Bool
  | .all (_ :: _ :: _) => true
  | .any (_ :: _ :: _) => true
  | _ => false

namespace Render

def parenthesize (wrap : Bool) (text : String) : String :=
  if wrap then "(" ++ text ++ ")" else text

mutual

-- Columns and values are written in the order in which they stand in the text, so that placeholders
-- count up from left to right.
def expr : Expr → Render String
  | .compare c op v => do
    let name ← qualifiedColumn c.table c.name
    return name ++ " " ++ op.symbol ++ " " ++ (← value v)
  | .isNull c negated => do
    let name ← qualifiedColumn c.table c.name
    return name ++ (if negated then " IS NOT NULL" else " IS NULL")
  | .between c negated low high => do
    let name ← qualifiedColumn c.table c.name
    let low ← value low
    let high ← value high
    return name ++ (if negated then " NOT BETWEEN " else " BETWEEN ") ++ low ++ " AND " ++ high
  | .inList c negated values =>
    if values.isEmpty then return if negated then "1 = 1" else "1 = 0"
    else do
      let name ← qualifiedColumn c.table c.name
      let texts ← values.mapM value
      return name ++ (if negated then " NOT IN (" else " IN (") ++ ", ".intercalate texts ++ ")"
  | .all items =>
    if items.isEmpty then return "1 = 1" else return " AND ".intercalate (← nested items)
  | .any items =>
    if items.isEmpty then return "1 = 0" else return " OR ".intercalate (← nested items)
  | .not inner => return "NOT " ++ parenthesize inner.isGroup (← expr inner)
  | .raw sql => return sql

def nested : List Expr → Render (List String)
  | [] => return []
  | item :: rest => do
    let text ← expr item
    return parenthesize item.isGroup text :: (← nested rest)

end

end Render

end SqlClauses
