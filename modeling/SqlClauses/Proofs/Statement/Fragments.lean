import SqlClauses.Proofs.Registry.Readings
import SqlClauses.Proofs.Statement.Values

set_option autoImplicit false

namespace SqlClauses

namespace Clause

theorem opens_conditionTemplate (keyword : String) (config : Config) (condition : Option Expr) :
    ∀ u, conditionTemplate keyword config condition = some u → u.Opens := by
  intro u h
  obtain ⟨e, -, rfl⟩ := Option.map_eq_some_iff.mp h
  exact ⟨_, _, rfl, by simp⟩

theorem opens_columnsTemplate (keyword : String) (config : Config) (columns : List String) :
    ∀ u, columnsTemplate keyword config columns = some u → u.Opens := by
  intro u h
  obtain ⟨list, -, rfl⟩ := Option.map_eq_some_iff.mp h
  exact ⟨_, _, rfl, by simp⟩

theorem ofCondition_gives {S : Type} (name keyword : String) (condition : S → Option Expr)
    (config : Config) (s : S) :
    (ofCondition name keyword condition).Gives config s
      (conditionTemplate keyword config (condition s)) :=
  ofCondition_eq name keyword condition ▸ ofTemplate_gives _ _ _ _ (opens_conditionTemplate _ _ _)

theorem ofColumns_gives {S : Type} (name keyword : String) (columns : S → List String)
    (config : Config) (s : S) :
    (ofColumns name keyword columns).Gives config s
      (columnsTemplate keyword config (columns s)) :=
  ofColumns_eq name keyword columns ▸ ofTemplate_gives _ _ _ _ (opens_columnsTemplate _ _ _)

theorem ofTemplate_gives_some {S : Type} (name : String) (template : Config → S → Template)
    (config : Config) (s : S) (opens : (template config s).Opens) :
    (ofTemplate name fun config s => some (template config s)).Gives config s
      (some (template config s)) :=
  ofTemplate_gives _ _ _ _ fun _ h => Option.some.inj h ▸ opens

end Clause

namespace Select

theorem text_ne_empty (config : Config) (j : Join) : j.text config ≠ "" := by
  cases j with
  | on side table condition => cases side <;> simp [Join.text, Join.Side.keyword]
  | cross table => simp [Join.text]

theorem opens_joinsTemplate (config : Config) (joins : List Join) :
    ∀ u, joinsTemplate config joins = some u → u.Opens := by
  intro u h
  cases joins with
  | nil => simp [joinsTemplate] at h
  | cons j rest =>
    refine ⟨_, _, (Option.some.inj h).symm, ?_⟩
    cases rest <;> simp [text_ne_empty]

def fragments (config : Config) (s : Select) : List (Option Template) :=
  [some (headTemplate config s),
    Clause.columnsTemplate "FROM" config s.tables,
    joinsTemplate config s.joins,
    Clause.conditionTemplate "WHERE" config s.condition,
    Clause.columnsTemplate "GROUP BY" config s.grouping,
    Clause.conditionTemplate "HAVING" config s.having,
    Clause.columnsTemplate "ORDER BY" config s.ordering]

theorem clauses_gives (config : Config) (s : Select) :
    clauses.Gives config s (fragments config s) :=
  .cons (head_eq ▸ Clause.ofTemplate_gives_some _ _ _ _ ⟨_, _, rfl, by simp⟩) <|
  .cons (Clause.ofColumns_gives _ _ _ _ _) <|
  .cons (joined_eq ▸ Clause.ofTemplate_gives _ _ _ _ (opens_joinsTemplate _ _)) <|
  .cons (Clause.ofCondition_gives _ _ _ _ _) <|
  .cons (Clause.ofColumns_gives _ _ _ _ _) <|
  .cons (Clause.ofCondition_gives _ _ _ _ _) <|
  .cons (Clause.ofColumns_gives _ _ _ _ _) .nil

end Select

namespace Insert

theorem opens_targetTemplate (config : Config) (s : Insert) : (targetTemplate config s).Opens := by
  unfold targetTemplate
  cases config.columns s.columns <;> exact ⟨_, _, rfl, by simp⟩

theorem opens_rowsTemplate (rows : List (List Value)) :
    ∀ u, rowsTemplate rows = some u → u.Opens := by
  intro u h
  cases rows with
  | nil => simp [rowsTemplate] at h
  | cons row rest => exact ⟨_, _, (Option.some.inj h).symm, by simp⟩

def fragments (config : Config) (s : Insert) : List (Option Template) :=
  [some headTemplate, some (targetTemplate config s), rowsTemplate s.rows]

theorem clauses_gives (config : Config) (s : Insert) :
    clauses.Gives config s (fragments config s) :=
  .cons (head_eq ▸ Clause.ofTemplate_gives_some _ _ _ _ ⟨_, _, rfl, by simp⟩) <|
  .cons (target_eq ▸ Clause.ofTemplate_gives_some _ _ _ _ (opens_targetTemplate _ _)) <|
  .cons (values_eq ▸ Clause.ofTemplate_gives _ _ _ _ (opens_rowsTemplate _)) .nil

end Insert

namespace Update

theorem opens_assignedTemplate (config : Config) (assignments : List Assignment) :
    ∀ u, assignedTemplate config assignments = some u → u.Opens := by
  intro u h
  cases assignments with
  | nil => simp [assignedTemplate] at h
  | cons a rest => exact ⟨_, _, (Option.some.inj h).symm, by simp⟩

def fragments (config : Config) (s : Update) : List (Option Template) :=
  [some (headTemplate config s), assignedTemplate config s.assignments,
    Clause.conditionTemplate "WHERE" config s.condition]

theorem clauses_gives (config : Config) (s : Update) :
    clauses.Gives config s (fragments config s) :=
  .cons (head_eq ▸ Clause.ofTemplate_gives_some _ _ _ _ ⟨_, _, rfl, by simp⟩) <|
  .cons (assigned_eq ▸ Clause.ofTemplate_gives _ _ _ _ (opens_assignedTemplate _ _)) <|
  .cons (Clause.ofCondition_gives _ _ _ _ _) .nil

end Update

namespace Delete

def fragments (config : Config) (s : Delete) : List (Option Template) :=
  [some (headTemplate config s), Clause.conditionTemplate "WHERE" config s.condition]

theorem clauses_gives (config : Config) (s : Delete) :
    clauses.Gives config s (fragments config s) :=
  .cons (head_eq ▸ Clause.ofTemplate_gives_some _ _ _ _ ⟨_, _, rfl, by simp⟩) <|
  .cons (Clause.ofCondition_gives _ _ _ _ _) .nil

end Delete

namespace Statement

def fragments (config : Config) : {k : Kind} → Statement k → List (Option Template)
  | .select, s => Select.fragments config s
  | .insert, s => Insert.fragments config s
  | .update, s => Update.fragments config s
  | .delete, s => Delete.fragments config s

theorem clauses_gives (config : Config) {k : Kind} (s : Statement k) :
    (clauses k).Gives config s (fragments config s) := by
  cases k with
  | select => exact Select.clauses_gives config s
  | insert => exact Insert.clauses_gives config s
  | update => exact Update.clauses_gives config s
  | delete => exact Delete.clauses_gives config s

theorem values_fragments (config : Config) {k : Kind} (s : Statement k) :
    ((fragments config s).flatMap fun f => f.elim [] Template.values) = s.values := by
  cases k with
  | select =>
    simp [fragments, Select.fragments, Select.headTemplate, Template.values, values,
      Clause.values_conditionTemplate, Clause.values_columnsTemplate, Select.values_joinsTemplate]
  | insert =>
    simp [fragments, Insert.fragments, Insert.headTemplate, Template.values, values,
      Insert.values_targetTemplate, Insert.values_rowsTemplate]
  | update =>
    simp [fragments, Update.fragments, Update.headTemplate, Template.values, values,
      Clause.values_conditionTemplate, Update.values_assignedTemplate]
  | delete =>
    simp [fragments, Delete.fragments, Delete.headTemplate, Template.values, values,
      Clause.values_conditionTemplate]

end Statement

end SqlClauses
