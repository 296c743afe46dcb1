import SqlClauses.Proofs.Statement.Values

set_option autoImplicit false

namespace SqlClauses

namespace Expr

theorem valuesOfItems_append (first second : List Expr) :
    valuesOfItems (first ++ second) = valuesOfItems first ++ valuesOfItems second := by
  induction first with
  | nil => rfl
  | cons item rest ih => simp [valuesOfItems, ih]

theorem values_and (first second : Expr) :
    (first.and second).values = first.values ++ second.values := by
  cases first <;> simp [Expr.and, values, valuesOfItems, valuesOfItems_append]

end Expr

def Select.Edit.conditionValues : Select.Edit → List Value
  | .condition e => e.values
  | _ => []

def Select.Edit.havingValues : Select.Edit → List Value
  | .having e => e.values
  | _ => []

def Insert.Edit.rowValues : Insert.Edit → List Value
  | .columns _ => []
  | .row values => values
  | .rows more => more.flatten

def Update.Edit.assignedValues : Update.Edit → List Value
  | .assign a => a.values
  | .condition _ => []

def Update.Edit.conditionValues : Update.Edit → List Value
  | .assign _ => []
  | .condition e => e.values

def Delete.Edit.conditionValues : Delete.Edit → List Value
  | .condition e => e.values

namespace Statement

def valuesOfEdits : (k : Kind) → List (Edit k) → List Value
  | .select, edits =>
    edits.flatMap Select.Edit.conditionValues ++ edits.flatMap Select.Edit.havingValues
  | .insert, edits => edits.flatMap Insert.Edit.rowValues
  | .update, edits =>
    edits.flatMap Update.Edit.assignedValues ++ edits.flatMap Update.Edit.conditionValues
  | .delete, edits => edits.flatMap Delete.Edit.conditionValues

theorem valuesOfCondition_addTo (earlier : Option Expr) (e : Expr) :
    valuesOfCondition (some (Expr.addTo earlier e)) = valuesOfCondition earlier ++ e.values := by
  cases earlier <;> simp [valuesOfCondition, Expr.addTo, Expr.values_and]

theorem collected_by_run {S E V : Type} (step : S → E → S) (view : S → List V)
    (added : E → List V) (each : ∀ s e, view (step s e) = view s ++ added e) (s : S)
    (edits : List E) : view (edits.foldl step s) = view s ++ edits.flatMap added := by
  induction edits generalizing s with
  | nil => simp
  | cons e rest ih => rw [List.foldl_cons, ih, each, List.flatMap_cons, List.append_assoc]

theorem values_run_select (s : Select) (edits : List Select.Edit) :
    valuesOfCondition (edits.foldl Select.edit s).condition =
        valuesOfCondition s.condition ++ edits.flatMap Select.Edit.conditionValues ∧
      valuesOfCondition (edits.foldl Select.edit s).having =
        valuesOfCondition s.having ++ edits.flatMap Select.Edit.havingValues := by
  constructor
  · apply collected_by_run Select.edit (fun s => valuesOfCondition s.condition)
    intro s e
    cases e <;> simp [Select.edit, Select.Edit.conditionValues, valuesOfCondition_addTo]
  · apply collected_by_run Select.edit (fun s => valuesOfCondition s.having)
    intro s e
    cases e <;> simp [Select.edit, Select.Edit.havingValues, valuesOfCondition_addTo]

theorem values_run_insert (s : Insert) (edits : List Insert.Edit) :
    (edits.foldl Insert.edit s).rows.flatten =
      s.rows.flatten ++ edits.flatMap Insert.Edit.rowValues := by
  apply collected_by_run Insert.edit (fun s => s.rows.flatten)
  intro s e
  cases e <;> simp [Insert.edit, Insert.Edit.rowValues]

theorem values_run_update (s : Update) (edits : List Update.Edit) :
    (edits.foldl Update.edit s).assignments.flatMap Assignment.values =
        s.assignments.flatMap Assignment.values ++ edits.flatMap Update.Edit.assignedValues ∧
      valuesOfCondition (edits.foldl Update.edit s).condition =
        valuesOfCondition s.condition ++ edits.flatMap Update.Edit.conditionValues := by
  constructor
  · apply collected_by_run Update.edit (fun s => s.assignments.flatMap Assignment.values)
    intro s e
    cases e <;> simp [Update.edit, Update.Edit.assignedValues]
  · apply collected_by_run Update.edit (fun s => valuesOfCondition s.condition)
    intro s e
    cases e <;> simp [Update.edit, Update.Edit.conditionValues, valuesOfCondition_addTo]

theorem values_run_delete (s : Delete) (edits : List Delete.Edit) :
    valuesOfCondition (edits.foldl Delete.edit s).condition =
      valuesOfCondition s.condition ++ edits.flatMap Delete.Edit.conditionValues := by
  apply collected_by_run Delete.edit (fun s => valuesOfCondition s.condition)
  intro s e
  cases e
  simp [Delete.edit, Delete.Edit.conditionValues, valuesOfCondition_addTo]

theorem values_run {k : Kind} (table : String) (columns : List String) (edits : List (Edit k)) :
    (edits.foldl edit (new table columns k)).values = valuesOfEdits k edits := by
  cases k with
  | select =>
    obtain ⟨condition, having⟩ := values_run_select {} edits
    change valuesOfCondition (edits.foldl Select.edit {}).condition ++
      valuesOfCondition (edits.foldl Select.edit {}).having = _
    rw [condition, having]
    rfl
  | insert => exact values_run_insert { table := table, columns := columns } edits
  | update =>
    obtain ⟨assigned, condition⟩ := values_run_update { table := table } edits
    change (edits.foldl Update.edit { table := table }).assignments.flatMap Assignment.values ++
      valuesOfCondition (edits.foldl Update.edit { table := table }).condition = _
    rw [assigned, condition]
    rfl
  | delete => exact values_run_delete { table := table } edits

end Statement

end SqlClauses
