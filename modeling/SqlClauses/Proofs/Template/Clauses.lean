import SqlClauses.Extension.Ignore
import SqlClauses.Extension.Paging
import SqlClauses.Extension.Upsert
import SqlClauses.Proofs.Template.Expr
import SqlClauses.Statement.Basic

set_option autoImplicit false

namespace SqlClauses

def Render.fragment : Option Template → Render (Option String)
  | none => return none
  | some t => some <$> write t

namespace Clause

variable {S : Type}

def ofTemplate (name : String) (template : Config → S → Option Template) : Clause S where
  name := name
  renderer s := do Render.fragment (template (← Render.config) s)

theorem run_ofTemplate (name : String) (template : Config → S → Option Template) (s : S)
    (cx : Context) : ((ofTemplate name template).renderer s).run cx =
      (Render.fragment (template cx.config s)).run cx := by
  simp [ofTemplate]

theorem run_ofTemplate_inline (name : String) (template : Config → S → Option Template)
    (config : Config) (s : S) :
    ((ofTemplate name template).renderer s).run (Context.inline config) =
      pure ((template config s).map Template.inline, Context.inline config) := by
  rw [run_ofTemplate, Context.config_inline]
  cases template config s <;> simp [Render.fragment]

theorem run_ofTemplate_collecting (name : String) (template : Config → S → Option Template)
    (config : Config) (values : Array Value) (s : S) :
    ((ofTemplate name template).renderer s).run ⟨config, some values⟩ =
      pure ((template config s).map (Template.marked config.placeholder values.size),
        ⟨config, some (values ++ ((template config s).elim [] Template.values).toArray)⟩) := by
  rw [run_ofTemplate]
  cases template config s <;> simp [Render.fragment]

-- A renderer is what it does to every context.
theorem eq_ofTemplate {c : Clause S} {template : Config → S → Option Template}
    (same : ∀ s cx, (c.renderer s).run cx = (Render.fragment (template cx.config s)).run cx) :
    c = ofTemplate c.name template := by
  obtain ⟨name, renderer⟩ := c
  have renderers : renderer = (ofTemplate name template).renderer := by
    funext s
    refine StateT.ext fun cx => ?_
    rw [run_ofTemplate, ← same]
  rw [renderers]
  rfl

def conditionTemplate (keyword : String) (config : Config) (condition : Option Expr) :
    Option Template :=
  condition.map fun e => .text (keyword ++ " ") :: e.template config

def columnsTemplate (keyword : String) (config : Config) (columns : List String) :
    Option Template :=
  (config.columns columns).map fun list => [.text (keyword ++ " " ++ list)]

theorem ofCondition_eq (name keyword : String) (condition : S → Option Expr) :
    ofCondition name keyword condition =
      .ofTemplate name fun config s => conditionTemplate keyword config (condition s) := by
  refine eq_ofTemplate fun s cx => ?_
  cases given : condition s with
  | none => simp [ofCondition, Render.fragment, conditionTemplate, given]
  | some e => simp [ofCondition, Render.fragment, conditionTemplate, given, Render.run_expr]

theorem ofColumns_eq (name keyword : String) (columns : S → List String) :
    ofColumns name keyword columns =
      .ofTemplate name fun config s => columnsTemplate keyword config (columns s) := by
  refine eq_ofTemplate fun s cx => ?_
  cases named : cx.config.columns (columns s) with
  | none => simp [ofColumns, Render.fragment, columnsTemplate, named]
  | some list => simp [ofColumns, Render.fragment, columnsTemplate, named]

end Clause

namespace Select

def headTemplate (config : Config) (s : Select) : Template :=
  [.text ("SELECT " ++ (if s.distinct then "DISTINCT " else "") ++ columnsText config s.columns)]

def joinsTemplate (config : Config) : List Join → Option Template
  | [] => none
  | joins => some [.text (" ".intercalate (joins.map (Join.text config)))]

theorem head_eq : head = .ofTemplate "select" fun config s => some (headTemplate config s) :=
  Clause.eq_ofTemplate fun s cx => by simp [head, Render.fragment, headTemplate]

theorem joined_eq : joined = .ofTemplate "join" fun config s => joinsTemplate config s.joins := by
  refine Clause.eq_ofTemplate fun s cx => ?_
  cases given : s.joins with
  | nil => simp [joined, Render.fragment, joinsTemplate, given]
  | cons j rest => simp [joined, Render.fragment, joinsTemplate, given]

end Select

namespace Insert

def headTemplate : Template := [.text "INSERT"]

def targetTemplate (config : Config) (s : Insert) : Template :=
  match config.columns s.columns with
  | none => [.text ("INTO " ++ config.column s.table)]
  | some list => [.text ("INTO " ++ config.column s.table ++ " (" ++ list ++ ")")]

def rowTemplate (values : List Value) : Template :=
  .text "(" :: (Template.join ", " (values.map fun v => [Piece.value v]) ++ [.text ")"])

def rowsTemplate : List (List Value) → Option Template
  | [] => none
  | rows => some (.text "VALUES " :: Template.join ", " (rows.map rowTemplate))

theorem head_eq : head = .ofTemplate "insert" fun _ _ => some headTemplate :=
  Clause.eq_ofTemplate fun s cx => by simp [head, Render.fragment, headTemplate]

theorem target_eq : target = .ofTemplate "into" fun config s => some (targetTemplate config s) := by
  refine Clause.eq_ofTemplate fun s cx => ?_
  cases named : cx.config.columns s.columns with
  | none => simp [target, Render.fragment, targetTemplate, named]
  | some list => simp [target, Render.fragment, targetTemplate, named]

theorem run_row (values : List Value) (cx : Context) :
    (row values).run cx = (Render.write (rowTemplate values)).run cx := by
  simp [row, rowTemplate, Render.write_join, Render.run_values, String.append_assoc]

theorem values_eq : values = .ofTemplate "values" fun _ s => rowsTemplate s.rows := by
  refine Clause.eq_ofTemplate fun s cx => ?_
  cases given : s.rows with
  | nil => simp [values, Render.fragment, rowsTemplate, given]
  | cons first rest =>
    have inside := Render.run_mapM_of_run (t := fun _ => rowTemplate) run_row (first :: rest) cx
    simp [values, Render.fragment, rowsTemplate, given, inside, Render.write_join,
      -List.mapM_cons, -List.map_cons]

end Insert

def Assigned.piece : Assigned → Piece
  | .value v => .value v
  | .raw sql => .text sql

def Assignment.template (config : Config) (a : Assignment) : Template :=
  [.text (config.column a.column ++ " = "), a.assigned.piece]

theorem Assignment.run_render (a : Assignment) (cx : Context) :
    a.render.run cx = (Render.write (a.template cx.config)).run cx := by
  obtain ⟨column, v | sql⟩ := a <;> simp [render, template, Assigned.piece]

namespace Update

def headTemplate (config : Config) (s : Update) : Template :=
  [.text ("UPDATE " ++ config.column s.table)]

def assignedTemplate (config : Config) : List Assignment → Option Template
  | [] => none
  | assignments =>
    some (.text "SET " :: Template.join ", " (assignments.map (Assignment.template config)))

theorem head_eq : head = .ofTemplate "update" fun config s => some (headTemplate config s) :=
  Clause.eq_ofTemplate fun s cx => by simp [head, Render.fragment, headTemplate]

theorem assigned_eq :
    assigned = .ofTemplate "set" fun config s => assignedTemplate config s.assignments := by
  refine Clause.eq_ofTemplate fun s cx => ?_
  cases given : s.assignments with
  | nil => simp [assigned, Render.fragment, assignedTemplate, given]
  | cons first rest =>
    have inside := Render.run_mapM_of_run Assignment.run_render (first :: rest) cx
    simp [assigned, Render.fragment, assignedTemplate, given, inside, Render.write_join,
      -List.mapM_cons, -List.map_cons]

end Update

namespace Delete

def headTemplate (config : Config) (s : Delete) : Template :=
  [.text ("DELETE FROM " ++ config.column s.table)]

theorem head_eq : head = .ofTemplate "delete" fun config s => some (headTemplate config s) :=
  Clause.eq_ofTemplate fun s cx => by simp [head, Render.fragment, headTemplate]

theorem clauses_eq : clauses =
    { kind := .delete
      clauses :=
        [.ofTemplate "delete" fun config s => some (headTemplate config s),
          .ofTemplate "where" fun config s =>
            Clause.conditionTemplate "WHERE" config s.condition] } := by
  rw [clauses, head_eq, Clause.ofCondition_eq]

end Delete

def UpdateColumn.template (config : Config) (entry : UpdateColumn) : Option Template :=
  (entry.text config).map fun text => [.text text]

theorem UpdateColumn.filterMap_template (config : Config) (entries : List UpdateColumn) :
    entries.filterMap (template config) =
      (entries.filterMap (text config)).map fun text => [Piece.text text] := by
  rw [List.map_filterMap]
  rfl

namespace Clause

variable {S : Type}

def ignoreTemplate (ignored : Bool) : Option Template :=
  if ignored then some [.text "IGNORE"] else none

def countTemplate (keyword : String) : Option Nat → Option Template
  | none => none
  | some 0 => none
  | some n => some [.text (keyword ++ " " ++ toString n)]

def upsertTemplate (config : Config) (entries : List UpdateColumn) : Option Template :=
  match entries.filterMap (UpdateColumn.template config) with
  | [] => none
  | items => some (.text "ON DUPLICATE KEY UPDATE " :: Template.join ", " items)

theorem ignore_eq [HasIgnore S] :
    (ignore : Clause S) = .ofTemplate "ignore" fun _ s => ignoreTemplate (HasIgnore.ignored s) := by
  refine eq_ofTemplate fun s cx => ?_
  cases given : HasIgnore.ignored s <;> simp [ignore, Render.fragment, ignoreTemplate, given]

theorem ofCount_eq (name keyword : String) (count : S → Option Nat) :
    ofCount name keyword count = .ofTemplate name fun _ s => countTemplate keyword (count s) := by
  refine eq_ofTemplate fun s cx => ?_
  match given : count s with
  | none | some 0 | some (n + 1) => simp [ofCount, Render.fragment, countTemplate, given]

theorem upsert_eq [HasUpsert S] :
    (upsert : Clause S) = .ofTemplate "on_duplicate_key_update" fun config s =>
      (HasUpsert.updates s).bind (upsertTemplate config) := by
  refine eq_ofTemplate fun s cx => ?_
  cases given : HasUpsert.updates s with
  | none => simp [upsert, Render.fragment, given]
  | some entries =>
    have templates := UpdateColumn.filterMap_template cx.config entries
    cases written : entries.filterMap (UpdateColumn.text cx.config) with
    | nil => simp [upsert, Render.fragment, upsertTemplate, given, templates, written]
    | cons text rest =>
      simp [upsert, Render.fragment, upsertTemplate, given, templates, written, Render.write_texts,
        -List.map_cons]

end Clause

end SqlClauses
