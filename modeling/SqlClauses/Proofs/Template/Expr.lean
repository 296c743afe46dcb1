import SqlClauses.Expr.Render
import SqlClauses.Proofs.Template.Basic

set_option autoImplicit false

namespace SqlClauses

def Column.text (config : Config) (c : Column) : String :=
  config.qualifiedColumn c.table c.name

namespace Expr

def always : Template := [.text "1 = 1"]

def never : Template := [.text "1 = 0"]

def parenthesize (wrap : Bool) (t : Template) : Template :=
  if wrap then .text "(" :: (t ++ [.text ")"]) else t

def group (empty : Template) (separator : String) : List Template → Template
  | [] => empty
  | items => Template.join separator items

def membership (column : String) (negated : Bool) : List Value → Template
  | [] => if negated then always else never
  | values =>
    .text (column ++ (if negated then " NOT IN (" else " IN (")) ::
      (Template.join ", " (values.map fun v => [Piece.value v]) ++ [.text ")"])

mutual

def template (config : Config) : Expr → Template
  | .compare column op value =>
    [.text (column.text config ++ " " ++ op.symbol ++ " "), .value value]
  | .isNull column negated =>
    [.text (column.text config ++ (if negated then " IS NOT NULL" else " IS NULL"))]
  | .between column negated low high =>
    [.text (column.text config ++ (if negated then " NOT BETWEEN " else " BETWEEN ")),
      .value low, .text " AND ", .value high]
  | .inList column negated values => membership (column.text config) negated values
  | .all items => group always " AND " (templates config items)
  | .any items => group never " OR " (templates config items)
  | .not inner => .text "NOT " :: parenthesize inner.isGroup (template config inner)
  | .raw sql => [.text sql]

def templates (config : Config) : List Expr → List Template
  | [] => []
  | item :: rest =>
    parenthesize item.isGroup (template config item) :: templates config rest

end

end Expr

namespace Render

theorem write_parenthesize (wrap : Bool) (t : Template) :
    write (Expr.parenthesize wrap t) = do return parenthesize wrap (← write t) := by
  cases wrap <;> simp [Expr.parenthesize, parenthesize, String.append_assoc]

theorem run_values (values : List Value) (cx : Context) :
    (values.mapM value).run cx = ((values.map fun v => [Piece.value v]).mapM write).run cx := by
  have each : (fun v => write [Piece.value v]) = value := by
    funext v
    simp
  rw [List.mapM_map, Function.comp_def, each]

mutual

theorem run_expr : (e : Expr) → (cx : Context) →
    (expr e).run cx = (write (e.template cx.config)).run cx
  | .compare c op v, cx => by
    simp [expr, Expr.template, Column.text]
  | .isNull c negated, cx => by
    simp [expr, Expr.template, Column.text]
  | .between c negated low high, cx => by
    simp [expr, Expr.template, Column.text, String.append_assoc]
  | .inList c negated values, cx => by
    cases values with
    | nil => cases negated <;> rfl
    | cons v rest =>
      simp [expr, Expr.template, Expr.membership, Column.text, write_join, run_values,
        String.append_assoc, -List.mapM_cons, -List.map_cons]
  | .all items, cx => by
    cases items with
    | nil => rfl
    | cons item rest =>
      have inside := run_nested (item :: rest) cx
      simp [expr, Expr.template, Expr.group, inside, Expr.templates, write_join]
  | .any items, cx => by
    cases items with
    | nil => rfl
    | cons item rest =>
      have inside := run_nested (item :: rest) cx
      simp [expr, Expr.template, Expr.group, inside, Expr.templates, write_join]
  | .not inner, cx => by
    simp [expr, Expr.template, run_expr inner, write_parenthesize]
  | .raw sql, cx => by
    simp [expr, Expr.template]

theorem run_nested : (items : List Expr) → (cx : Context) →
    (nested items).run cx = ((Expr.templates cx.config items).mapM write).run cx
  | [], cx => rfl
  | item :: rest, cx => by
    simp only [nested, Expr.templates, run_expr item, List.mapM_cons, write_parenthesize,
      StateT.run_bind, bind_assoc, StateT.run_pure, pure_bind, run_nested rest]
    exact run_write_bind _ _ fun p kept => by rw [kept]

end

end Render

end SqlClauses
