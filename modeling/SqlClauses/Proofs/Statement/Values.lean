import SqlClauses.Proofs.Template.Clauses
import SqlClauses.Proofs.Template.Join

set_option autoImplicit false

namespace SqlClauses

theorem Template.values_join_values (separator : String) (vs : List Value) :
    values (join separator (vs.map fun v => [Piece.value v])) = vs := by
  simp [List.flatMap_map, values]

namespace Expr

mutual

def values : Expr → List Value
  | .compare _ _ value => [value]
  | .isNull _ _ => []
  | .between _ _ low high => [low, high]
  | .inList _ _ values => values
  | .all items => valuesOfItems items
  | .any items => valuesOfItems items
  | .not inner => values inner
  | .raw _ => []

def valuesOfItems : List Expr → List Value
  | [] => []
  | item :: rest => values item ++ valuesOfItems rest

end

theorem values_parenthesize (wrap : Bool) (t : Template) :
    Template.values (parenthesize wrap t) = Template.values t := by
  cases wrap <;> simp [parenthesize, Template.values]

theorem values_group (empty : Template) (separator : String) (items : List Template)
    (silent : empty.values = []) :
    Template.values (group empty separator items) = items.flatMap Template.values := by
  cases items with
  | nil => simpa [group] using silent
  | cons t rest => rw [group, Template.values_join]; simp

theorem values_membership (column : String) (negated : Bool) (values : List Value) :
    Template.values (membership column negated values) = values := by
  cases values with
  | nil => cases negated <;> rfl
  | cons v rest =>
    rw [membership, Template.values, Template.values_append, Template.values_join_values]
    · simp [Template.values]
    · simp

mutual

theorem values_template (config : Config) : (e : Expr) → (e.template config).values = e.values
  | .compare _ _ _ => rfl
  | .isNull _ _ => rfl
  | .between _ _ _ _ => rfl
  | .inList column negated values => by
    rw [template, values_membership, Expr.values]
  | .all items => by
    rw [template, values_group _ _ _ rfl, values_templates config items, Expr.values]
  | .any items => by
    rw [template, values_group _ _ _ rfl, values_templates config items, Expr.values]
  | .not inner => by
    simp [template, Template.values, values_parenthesize, values_template config inner,
      Expr.values]
  | .raw _ => rfl

theorem values_templates (config : Config) :
    (items : List Expr) → (templates config items).flatMap Template.values = valuesOfItems items
  | [] => rfl
  | item :: rest => by
    simp [templates, values_parenthesize, values_template config item,
      values_templates config rest, valuesOfItems]

end

end Expr

def Assignment.values (a : Assignment) : List Value :=
  match a.assigned with
  | .value v => [v]
  | .raw _ => []

namespace Statement

def valuesOfCondition (condition : Option Expr) : List Value :=
  condition.elim [] Expr.values

def values : {k : Kind} → Statement k → List Value
  | .select, s => valuesOfCondition (Select.condition s) ++ valuesOfCondition (Select.having s)
  | .insert, s => (Insert.rows s).flatten
  | .update, s =>
    (Update.assignments s).flatMap Assignment.values ++ valuesOfCondition (Update.condition s)
  | .delete, s => valuesOfCondition (Delete.condition s)

end Statement

theorem Clause.values_conditionTemplate (keyword : String) (config : Config)
    (condition : Option Expr) :
    (conditionTemplate keyword config condition).elim [] Template.values =
      Statement.valuesOfCondition condition := by
  cases condition <;>
    simp [conditionTemplate, Template.values, Expr.values_template, Statement.valuesOfCondition]

theorem Clause.values_columnsTemplate (keyword : String) (config : Config)
    (columns : List String) :
    (columnsTemplate keyword config columns).elim [] Template.values = [] := by
  unfold columnsTemplate
  cases config.columns columns <;> rfl

theorem Select.values_joinsTemplate (config : Config) (joins : List Join) :
    (joinsTemplate config joins).elim [] Template.values = [] := by
  cases joins <;> rfl

theorem Insert.values_targetTemplate (config : Config) (s : Insert) :
    (targetTemplate config s).values = [] := by
  unfold targetTemplate
  cases config.columns s.columns <;> rfl

theorem Insert.values_rowTemplate (row : List Value) : (rowTemplate row).values = row := by
  rw [rowTemplate, Template.values, Template.values_append, Template.values_join_values]
  simp [Template.values]

theorem Insert.values_rowsTemplate (rows : List (List Value)) :
    (rowsTemplate rows).elim [] Template.values = rows.flatten := by
  cases rows with
  | nil => rfl
  | cons row rest =>
    have each : Template.values ∘ rowTemplate = id := funext values_rowTemplate
    simp [rowsTemplate, Template.values, Template.values_join, each,
      List.flatMap_def, -List.map_cons]

theorem Assignment.values_template (config : Config) (a : Assignment) :
    (a.template config).values = a.values := by
  obtain ⟨column, assigned⟩ := a
  cases assigned <;> rfl

theorem Update.values_assignedTemplate (config : Config) (assignments : List Assignment) :
    (assignedTemplate config assignments).elim [] Template.values =
      assignments.flatMap Assignment.values := by
  cases assignments with
  | nil => rfl
  | cons a rest =>
    have each : Template.values ∘ Assignment.template config = Assignment.values :=
      funext (Assignment.values_template config)
    simp [assignedTemplate, Template.values, Template.values_join, each,
      List.flatMap_def, -List.map_cons]

end SqlClauses
