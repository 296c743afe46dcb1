import SqlClauses.Proofs.Condition.Enforced
import SqlClauses.Proofs.Mysql.Calls
import SqlClauses.Proofs.Statement.Calls

set_option autoImplicit false

namespace SqlClauses

open Mysql (lastWritten lastWritten_run)

inductive Field where
  | columns
  | distinct
  | tables
  | joins
  | condition
  | grouping
  | having
  | ordering
  | rows
  | assignments
  | limit
  | offset
  | ignored
  | updates
deriving DecidableEq

def SameByField {E : Type} (field : E → Field) (es es' : List E) : Prop :=
  ∀ f, es.filter (fun e => field e = f) = es'.filter (fun e => field e = f)

namespace SameByField

variable {E A : Type} {field : E → Field} {es es' : List E}

theorem flatMap_filter_field (f : Field) {added : E → List A}
    (others : ∀ e, field e ≠ f → added e = []) (es : List E) :
    (es.filter fun e => field e = f).flatMap added = es.flatMap added := by
  induction es with
  | nil => rfl
  | cons e rest ih =>
    by_cases writes : field e = f
    · simp [writes, ih]
    · simp [writes, ih, others e writes]

theorem flatMap_eq (same : SameByField field es es') (f : Field) (added : E → List A)
    (others : ∀ e, field e ≠ f → added e = []) : es.flatMap added = es'.flatMap added := by
  rw [← flatMap_filter_field f others es, same f, flatMap_filter_field f others es']

theorem filterMap_eq (same : SameByField field es es') (f : Field) (written : E → Option A)
    (others : ∀ e, field e ≠ f → written e = none) :
    es.filterMap written = es'.filterMap written := by
  have lists := same.flatMap_eq f (fun e => (written e).toList) (by
    intro e other
    simp [others e other])
  simpa [List.filterMap_eq_flatMap_toList] using lists

theorem lastWritten_eq (same : SameByField field es es') (f : Field) (written : E → Option A)
    (others : ∀ e, field e ≠ f → written e = none) :
    lastWritten written es = lastWritten written es' := by
  rw [lastWritten, same.filterMap_eq f written others, lastWritten]

-- Calls of which only some go to a part of the state, where they write the same field.
theorem filterMap {E' : Type} {field' : E' → Field} (same : SameByField field es es')
    {part : E → Option E'} (kept : ∀ e e', part e = some e' → field' e' = field e) :
    SameByField field' (es.filterMap part) (es'.filterMap part) := by
  have transfer (f : Field) (es : List E) :
      (es.filterMap part).filter (fun e' => field' e' = f) =
        (es.filter fun e => field e = f).filterMap part := by
    induction es with
    | nil => rfl
    | cons e rest ih =>
      cases goes : part e with
      | none => by_cases writes : field e = f <;> simp [goes, writes, ih]
      | some e' => by_cases writes : field e = f <;> simp [goes, kept e e' goes, writes, ih]
  intro f
  rw [transfer, transfer, same f]

end SameByField

-- The conditions under one AND. A first one that is an AND itself takes in the others.
def Expr.conjoined : List Expr → Option Expr
  | [] => none
  | [e] => some e
  | first :: rest => some (.all (first.conjuncts ++ rest))

theorem Expr.some_foldl_and (first : Expr) (rest : List Expr) :
    some (rest.foldl Expr.and first) = conjoined (first :: rest) := by
  cases rest with
  | nil => rfl
  | cons next rest => exact congrArg some (foldl_and first next rest)

theorem Filter.condition_conjoined {k : Kind} (f : Filter k) (table : String)
    (columns : List String) (edits : List (Statement.Edit k)) :
    f.condition (edits.foldl Statement.edit (Statement.new table columns k)) =
      Expr.conjoined (edits.filterMap f.added) := by
  cases added : edits.filterMap f.added with
  | nil =>
    rw [f.condition_run, added, f.condition_new]
    rfl
  | cons first rest => rw [f.condition_added table columns edits added, Expr.some_foldl_and]

theorem kept_by_run {S E A : Type} (step : S → E → S) (view : S → A)
    (each : ∀ s e, view (step s e) = view s) (s : S) (edits : List E) :
    view (edits.foldl step s) = view s := by
  induction edits generalizing s with
  | nil => rfl
  | cons e rest ih => rw [List.foldl_cons, ih, each]

attribute [ext] Select Insert Update Delete

namespace Select

namespace Edit

def field : Edit → Field
  | .columns _ => .columns
  | .distinct => .distinct
  | .table _ => .tables
  | .join _ => .joins
  | .condition _ => .condition
  | .grouping _ => .grouping
  | .having _ => .having
  | .ordering _ => .ordering

def columns? : Edit → Option (List String)
  | .columns names => some names
  | _ => none

def distinct? : Edit → Option Bool
  | .distinct => some true
  | _ => none

def tables : Edit → List String
  | .table name => [name]
  | _ => []

def joins : Edit → List Join
  | .join j => [j]
  | _ => []

def grouping? : Edit → Option (List String)
  | .grouping names => some names
  | _ => none

def ordering? : Edit → Option (List String)
  | .ordering names => some names
  | _ => none

end Edit

def ofEdits (edits : List Edit) : Select where
  columns := (lastWritten Edit.columns? edits).getD []
  distinct := (lastWritten Edit.distinct? edits).getD false
  tables := edits.flatMap Edit.tables
  joins := edits.flatMap Edit.joins
  condition := Expr.conjoined (edits.filterMap Filter.selected.added)
  grouping := (lastWritten Edit.grouping? edits).getD []
  having := Expr.conjoined (edits.filterMap Filter.grouped.added)
  ordering := (lastWritten Edit.ordering? edits).getD []

theorem run (edits : List Edit) : edits.foldl edit {} = ofEdits edits := by
  apply Select.ext
  case columns =>
    exact lastWritten_run edit (·.columns) Edit.columns? (fun s e => by cases e <;> rfl) {} edits
  case distinct =>
    exact lastWritten_run edit (·.distinct) Edit.distinct? (fun s e => by cases e <;> rfl) {} edits
  case tables =>
    apply Statement.collected_by_run edit (·.tables) Edit.tables
    intro s e
    cases e <;> simp [edit, Edit.tables]
  case joins =>
    apply Statement.collected_by_run edit (·.joins) Edit.joins
    intro s e
    cases e <;> simp [edit, Edit.joins]
  case condition => exact Filter.selected.condition_conjoined "" [] edits
  case grouping =>
    exact lastWritten_run edit (·.grouping) Edit.grouping? (fun s e => by cases e <;> rfl) {} edits
  case having => exact Filter.grouped.condition_conjoined "" [] edits
  case ordering =>
    exact lastWritten_run edit (·.ordering) Edit.ordering? (fun s e => by cases e <;> rfl) {} edits

theorem ofEdits_congr {es es' : List Edit} (same : SameByField Edit.field es es') :
    ofEdits es = ofEdits es' := by
  have columns := same.lastWritten_eq .columns Edit.columns? (by
    intro e
    cases e <;> simp [Edit.field, Edit.columns?])
  have distinct := same.lastWritten_eq .distinct Edit.distinct? (by
    intro e
    cases e <;> simp [Edit.field, Edit.distinct?])
  have tables := same.flatMap_eq .tables Edit.tables (by
    intro e
    cases e <;> simp [Edit.field, Edit.tables])
  have joins := same.flatMap_eq .joins Edit.joins (by
    intro e
    cases e <;> simp [Edit.field, Edit.joins])
  have condition := same.filterMap_eq .condition Filter.selected.added (by
    intro e
    cases e <;> simp [Edit.field, Filter.added])
  have grouping := same.lastWritten_eq .grouping Edit.grouping? (by
    intro e
    cases e <;> simp [Edit.field, Edit.grouping?])
  have grouped := same.filterMap_eq .having Filter.grouped.added (by
    intro e
    cases e <;> simp [Edit.field, Filter.added])
  have ordering := same.lastWritten_eq .ordering Edit.ordering? (by
    intro e
    cases e <;> simp [Edit.field, Edit.ordering?])
  simp only [ofEdits, columns, distinct, tables, joins, condition, grouping, grouped, ordering]

end Select

namespace Insert

namespace Edit

def field : Edit → Field
  | .columns _ => .columns
  | .row _ => .rows
  | .rows _ => .rows

def columns? : Edit → Option (List String)
  | .columns names => some names
  | _ => none

def added : Edit → List (List Value)
  | .columns _ => []
  | .row values => [values]
  | .rows more => more

end Edit

def ofEdits (table : String) (columns : List String) (edits : List Edit) : Insert where
  table := table
  columns := (lastWritten Edit.columns? edits).getD columns
  rows := edits.flatMap Edit.added

theorem run (table : String) (columns : List String) (edits : List Edit) :
    edits.foldl edit { table := table, columns := columns } = ofEdits table columns edits := by
  apply Insert.ext
  case table =>
    exact kept_by_run edit (·.table) (fun s e => by cases e <;> rfl) _ edits
  case columns =>
    exact lastWritten_run edit (·.columns) Edit.columns? (fun s e => by cases e <;> rfl) _ edits
  case rows =>
    apply Statement.collected_by_run edit (·.rows) Edit.added
    intro s e
    cases e <;> simp [edit, Edit.added]

theorem ofEdits_congr (table : String) (columns : List String) {es es' : List Edit}
    (same : SameByField Edit.field es es') :
    ofEdits table columns es = ofEdits table columns es' := by
  have listed := same.lastWritten_eq .columns Edit.columns? (by
    intro e
    cases e <;> simp [Edit.field, Edit.columns?])
  have rows := same.flatMap_eq .rows Edit.added (by
    intro e
    cases e <;> simp [Edit.field, Edit.added])
  simp only [ofEdits, listed, rows]

end Insert

namespace Update

namespace Edit

def field : Edit → Field
  | .assign _ => .assignments
  | .condition _ => .condition

def assignments : Edit → List Assignment
  | .assign a => [a]
  | .condition _ => []

end Edit

def ofEdits (table : String) (edits : List Edit) : Update where
  table := table
  assignments := edits.flatMap Edit.assignments
  condition := Expr.conjoined (edits.filterMap Filter.updated.added)

theorem run (table : String) (edits : List Edit) :
    edits.foldl edit { table := table } = ofEdits table edits := by
  apply Update.ext
  case table =>
    exact kept_by_run edit (·.table) (fun s e => by cases e <;> rfl) _ edits
  case assignments =>
    apply Statement.collected_by_run edit (·.assignments) Edit.assignments
    intro s e
    cases e <;> simp [edit, Edit.assignments]
  case condition => exact Filter.updated.condition_conjoined table [] edits

theorem ofEdits_congr (table : String) {es es' : List Edit}
    (same : SameByField Edit.field es es') : ofEdits table es = ofEdits table es' := by
  have assignments := same.flatMap_eq .assignments Edit.assignments (by
    intro e
    cases e <;> simp [Edit.field, Edit.assignments])
  have condition := same.filterMap_eq .condition Filter.updated.added (by
    intro e
    cases e <;> simp [Edit.field, Filter.added])
  simp only [ofEdits, assignments, condition]

end Update

namespace Delete

def Edit.field : Edit → Field
  | .condition _ => .condition

def ofEdits (table : String) (edits : List Edit) : Delete where
  table := table
  condition := Expr.conjoined (edits.filterMap Filter.deleted.added)

theorem run (table : String) (edits : List Edit) :
    edits.foldl edit { table := table } = ofEdits table edits := by
  apply Delete.ext
  case table =>
    exact kept_by_run edit (·.table) (fun _ _ => rfl) _ edits
  case condition => exact Filter.deleted.condition_conjoined table [] edits

theorem ofEdits_congr (table : String) {es es' : List Edit}
    (same : SameByField Edit.field es es') : ofEdits table es = ofEdits table es' := by
  have condition := same.filterMap_eq .condition Filter.deleted.added (by
    intro e
    cases e
    simp [Edit.field])
  simp only [ofEdits, condition]

end Delete

namespace Statement

def field : {k : Kind} → Edit k → Field
  | .select, e => Select.Edit.field e
  | .insert, e => Insert.Edit.field e
  | .update, e => Update.Edit.field e
  | .delete, e => Delete.Edit.field e

-- The statement that calls make. Tables, joins, rows and assignments add up in the order of their
-- calls, conditions are joined by AND, and of the other fields the last call counts.
def ofEdits (table : String) (columns : List String) : (k : Kind) → List (Edit k) → Statement k
  | .select, edits => Select.ofEdits edits
  | .insert, edits => Insert.ofEdits table columns edits
  | .update, edits => Update.ofEdits table edits
  | .delete, edits => Delete.ofEdits table edits

theorem run {k : Kind} (table : String) (columns : List String) (edits : List (Edit k)) :
    edits.foldl edit (new table columns k) = ofEdits table columns k edits := by
  cases k with
  | select => exact Select.run edits
  | insert => exact Insert.run table columns edits
  | update => exact Update.run table edits
  | delete => exact Delete.run table edits

theorem ofEdits_congr {k : Kind} (table : String) (columns : List String)
    {es es' : List (Edit k)} (same : SameByField field es es') :
    ofEdits table columns k es = ofEdits table columns k es' := by
  cases k with
  | select => exact Select.ofEdits_congr same
  | insert => exact Insert.ofEdits_congr table columns same
  | update => exact Update.ofEdits_congr table same
  | delete => exact Delete.ofEdits_congr table same

end Statement

end SqlClauses
