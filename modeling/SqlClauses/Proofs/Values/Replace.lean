import SqlClauses.Mysql.Grammar
import SqlClauses.Proofs.Template.Clauses
import SqlClauses.Proofs.Template.Join

set_option autoImplicit false

namespace SqlClauses

def Piece.mapValue (f : Value → Value) : Piece → Piece
  | .text s => .text s
  | .value v => .value (f v)

namespace Template

def mapValues (f : Value → Value) (t : Template) : Template :=
  t.map (Piece.mapValue f)

variable (f : Value → Value)

@[simp] theorem mapValues_nil : mapValues f [] = [] := rfl

@[simp] theorem mapValues_text_cons (s : String) (t : Template) :
    mapValues f (.text s :: t) = .text s :: mapValues f t := rfl

@[simp] theorem mapValues_value_cons (v : Value) (t : Template) :
    mapValues f (.value v :: t) = .value (f v) :: mapValues f t := rfl

@[simp] theorem mapValues_append (s t : Template) :
    mapValues f (s ++ t) = mapValues f s ++ mapValues f t :=
  List.map_append

@[simp] theorem values_mapValues (t : Template) : (t.mapValues f).values = t.values.map f := by
  induction t with
  | nil => rfl
  | cons p rest ih => cases p <;> simp [values, ih]

@[simp] theorem marked_mapValues (style : Placeholder) (earlier : Nat) (t : Template) :
    (t.mapValues f).marked style earlier = t.marked style earlier := by
  induction t generalizing earlier with
  | nil => rfl
  | cons p rest ih => cases p <;> simp [ih]

theorem mapValues_join (separator : String) (items : List Template) :
    mapValues f (join separator items) = join separator (items.map (mapValues f)) := by
  induction items with
  | nil => rfl
  | cons t rest ih =>
    cases rest with
    | nil => simp
    | cons u rest =>
      simp only [List.map_cons] at ih
      simp [ih]

theorem mapValues_of_silent {t : Template} (silent : t.values = []) : t.mapValues f = t := by
  induction t with
  | nil => rfl
  | cons p rest ih =>
    cases p with
    | text s => rw [mapValues_text_cons, ih silent]
    | value v => cases silent

theorem map_mapValues_of_silent {t : Option Template} (silent : t.elim [] values = []) :
    t.map (mapValues f) = t := by
  cases t with
  | none => rfl
  | some t => rw [Option.map_some, mapValues_of_silent f silent]

-- Items that are replaced one by one.
theorem join_map_replaced {A : Type} (separator : String) (item : A → Template) {replace : A → A}
    (each : ∀ a, item (replace a) = (item a).mapValues f) (items : List A) :
    join separator ((items.map replace).map item) =
      (join separator (items.map item)).mapValues f := by
  have itemwise : item ∘ replace = mapValues f ∘ item := funext each
  rw [List.map_map, itemwise, mapValues_join, List.map_map]

end Template

namespace Expr

mutual

def mapValues (f : Value → Value) : Expr → Expr
  | .compare column op value => .compare column op (f value)
  | .isNull column negated => .isNull column negated
  | .between column negated low high => .between column negated (f low) (f high)
  | .inList column negated values => .inList column negated (values.map f)
  | .all items => .all (mapItems f items)
  | .any items => .any (mapItems f items)
  | .not inner => .not (mapValues f inner)
  | .raw sql => .raw sql

def mapItems (f : Value → Value) : List Expr → List Expr
  | [] => []
  | item :: rest => mapValues f item :: mapItems f rest

end

variable (f : Value → Value)

theorem mapItems_append (items more : List Expr) :
    mapItems f (items ++ more) = mapItems f items ++ mapItems f more := by
  induction items with
  | nil => rfl
  | cons item rest ih => rw [List.cons_append, mapItems, ih, mapItems, List.cons_append]

theorem mapValues_and (a b : Expr) :
    (a.and b).mapValues f = (a.mapValues f).and (b.mapValues f) := by
  cases a <;> simp [Expr.and, mapValues, mapItems, mapItems_append]

theorem mapValues_addTo (earlier : Option Expr) (e : Expr) :
    (addTo earlier e).mapValues f = addTo (earlier.map (mapValues f)) (e.mapValues f) := by
  cases earlier with
  | none => rfl
  | some first => exact mapValues_and f first e

-- A group keeps the number of its items, so it keeps its parentheses.
theorem isGroup_mapValues (e : Expr) : (e.mapValues f).isGroup = e.isGroup := by
  cases e with
  | all items =>
    match items with
    | [] | [_] | _ :: _ :: _ => rfl
  | any items =>
    match items with
    | [] | [_] | _ :: _ :: _ => rfl
  | _ => rfl

theorem parenthesize_mapValues (wrap : Bool) (t : Template) :
    parenthesize wrap (t.mapValues f) = (parenthesize wrap t).mapValues f := by
  cases wrap <;> simp [parenthesize]

theorem group_mapValues {empty : Template} (silent : empty.values = []) (separator : String)
    (items : List Template) :
    group empty separator (items.map (Template.mapValues f)) =
      (group empty separator items).mapValues f := by
  cases items with
  | nil => exact (Template.mapValues_of_silent f silent).symm
  | cons t rest => exact (Template.mapValues_join f separator (t :: rest)).symm

theorem membership_mapValues (column : String) (negated : Bool) (values : List Value) :
    membership column negated (values.map f) = (membership column negated values).mapValues f := by
  cases values with
  | nil => cases negated <;> rfl
  | cons v rest =>
    have listed := Template.join_map_replaced f ", " (fun w => [Piece.value w]) (fun _ => rfl)
      (v :: rest)
    rw [List.map_cons] at listed ⊢
    simp only [membership]
    rw [listed]
    simp

mutual

theorem template_mapValues (config : Config) :
    (e : Expr) → (e.mapValues f).template config = (e.template config).mapValues f
  | .compare _ _ _ => rfl
  | .isNull _ _ => rfl
  | .between _ _ _ _ => rfl
  | .inList column negated values => by
    rw [mapValues, template, template, membership_mapValues]
  | .all items => by
    rw [mapValues, template, template, templates_mapItems config items, group_mapValues f rfl]
  | .any items => by
    rw [mapValues, template, template, templates_mapItems config items, group_mapValues f rfl]
  | .not inner => by
    rw [mapValues, template, template, template_mapValues config inner, isGroup_mapValues,
      parenthesize_mapValues, Template.mapValues_text_cons]
  | .raw _ => rfl

theorem templates_mapItems (config : Config) :
    (items : List Expr) →
      templates config (mapItems f items) = (templates config items).map (Template.mapValues f)
  | [] => rfl
  | item :: rest => by
    rw [mapItems, templates, templates, template_mapValues config item, isGroup_mapValues,
      parenthesize_mapValues, templates_mapItems config rest, List.map_cons]

end

end Expr

def Assigned.mapValue (f : Value → Value) : Assigned → Assigned
  | .value v => .value (f v)
  | .raw sql => .raw sql

def Assignment.mapValue (f : Value → Value) (a : Assignment) : Assignment :=
  { a with assigned := a.assigned.mapValue f }

theorem Assignment.template_mapValue (f : Value → Value) (config : Config) (a : Assignment) :
    (a.mapValue f).template config = (a.template config).mapValues f := by
  obtain ⟨column, assigned⟩ := a
  cases assigned <;> rfl

def Select.mapValues (f : Value → Value) (s : Select) : Select :=
  { s with
    condition := s.condition.map (Expr.mapValues f)
    having := s.having.map (Expr.mapValues f) }

def Insert.mapValues (f : Value → Value) (s : Insert) : Insert :=
  { s with rows := s.rows.map (List.map f) }

def Update.mapValues (f : Value → Value) (s : Update) : Update :=
  { s with
    assignments := s.assignments.map (Assignment.mapValue f)
    condition := s.condition.map (Expr.mapValues f) }

def Delete.mapValues (f : Value → Value) (s : Delete) : Delete :=
  { s with condition := s.condition.map (Expr.mapValues f) }

theorem Insert.rowTemplate_mapValues (f : Value → Value) (row : List Value) :
    rowTemplate (row.map f) = (rowTemplate row).mapValues f := by
  have listed := Template.join_map_replaced f ", " (fun v => [Piece.value v]) (fun _ => rfl) row
  rw [rowTemplate, listed]
  simp [rowTemplate]

theorem Insert.rowsTemplate_mapValues (f : Value → Value) (s : Insert) :
    rowsTemplate (s.mapValues f).rows = (rowsTemplate s.rows).map (Template.mapValues f) := by
  rw [mapValues]
  cases s.rows with
  | nil => rfl
  | cons row rest =>
    have listed := Template.join_map_replaced f ", " rowTemplate (rowTemplate_mapValues f)
      (row :: rest)
    rw [List.map_cons] at listed ⊢
    simp only [rowsTemplate, Option.map_some, Template.mapValues_text_cons]
    rw [listed]

theorem Update.assignedTemplate_mapValues (f : Value → Value) (config : Config) (s : Update) :
    assignedTemplate config (s.mapValues f).assignments =
      (assignedTemplate config s.assignments).map (Template.mapValues f) := by
  rw [mapValues]
  cases s.assignments with
  | nil => rfl
  | cons a rest =>
    have listed := Template.join_map_replaced f ", " (Assignment.template config)
      (Assignment.template_mapValue f config) (a :: rest)
    rw [List.map_cons] at listed ⊢
    simp only [assignedTemplate, Option.map_some, Template.mapValues_text_cons]
    rw [listed]

def Select.Edit.mapValues (f : Value → Value) : Select.Edit → Select.Edit
  | .condition e => .condition (e.mapValues f)
  | .having e => .having (e.mapValues f)
  | e => e

def Insert.Edit.mapValues (f : Value → Value) : Insert.Edit → Insert.Edit
  | .columns names => .columns names
  | .row values => .row (values.map f)
  | .rows more => .rows (more.map (List.map f))

def Update.Edit.mapValues (f : Value → Value) : Update.Edit → Update.Edit
  | .assign a => .assign (a.mapValue f)
  | .condition e => .condition (e.mapValues f)

def Delete.Edit.mapValues (f : Value → Value) : Delete.Edit → Delete.Edit
  | .condition e => .condition (e.mapValues f)

namespace Statement

def mapValues (f : Value → Value) : {k : Kind} → Statement k → Statement k
  | .select, s => Select.mapValues f s
  | .insert, s => Insert.mapValues f s
  | .update, s => Update.mapValues f s
  | .delete, s => Delete.mapValues f s

def Edit.mapValues (f : Value → Value) : {k : Kind} → Edit k → Edit k
  | .select, e => Select.Edit.mapValues f e
  | .insert, e => Insert.Edit.mapValues f e
  | .update, e => Update.Edit.mapValues f e
  | .delete, e => Delete.Edit.mapValues f e

variable (f : Value → Value)

theorem mapValues_edit {k : Kind} (s : Statement k) (e : Edit k) :
    (s.edit e).mapValues f = (s.mapValues f).edit (Edit.mapValues f e) := by
  cases k with
  | select =>
    cases e <;>
      simp [edit, mapValues, Edit.mapValues, Select.edit, Select.mapValues,
        Select.Edit.mapValues, Expr.mapValues_addTo]
  | insert =>
    cases e <;>
      simp [edit, mapValues, Edit.mapValues, Insert.edit, Insert.mapValues,
        Insert.Edit.mapValues]
  | update =>
    cases e <;>
      simp [edit, mapValues, Edit.mapValues, Update.edit, Update.mapValues,
        Update.Edit.mapValues, Expr.mapValues_addTo]
  | delete =>
    cases e
    simp [edit, mapValues, Edit.mapValues, Delete.edit, Delete.mapValues,
      Delete.Edit.mapValues, Expr.mapValues_addTo]

theorem mapValues_run {k : Kind} (s : Statement k) (edits : List (Edit k)) :
    (edits.foldl edit s).mapValues f = (edits.map (Edit.mapValues f)).foldl edit (s.mapValues f) := by
  induction edits generalizing s with
  | nil => rfl
  | cons e rest ih => rw [List.foldl_cons, ih, mapValues_edit, List.map_cons, List.foldl_cons]

@[simp] theorem mapValues_new (table : String) (columns : List String) (k : Kind) :
    (new table columns k).mapValues f = new table columns k := by
  cases k <;> rfl

end Statement

namespace Mysql.Draft

-- The clauses of MySQL hold no values of their own.
def mapValues (f : Value → Value) {k : Kind} (d : Draft k) : Draft k :=
  { d with base := d.base.mapValues f }

def Edit.mapValues (f : Value → Value) {k : Kind} : Edit k → Edit k
  | .base e => .base (Statement.Edit.mapValues f e)
  | .extra e => .extra e

variable (f : Value → Value) {k : Kind}

theorem mapValues_run (d : Draft k) (edits : List (Edit k)) :
    (edits.foldl edit d).mapValues f = (edits.map (Edit.mapValues f)).foldl edit (d.mapValues f) := by
  induction edits generalizing d with
  | nil => rfl
  | cons e rest ih =>
    have step : (d.edit e).mapValues f = (d.mapValues f).edit (e.mapValues f) := by
      cases e with
      | base e => simp [edit, mapValues, Edit.mapValues, Statement.mapValues_edit]
      | extra e => rfl
    rw [List.foldl_cons, ih, step, List.map_cons, List.foldl_cons]

@[simp] theorem mapValues_new (table : String) (columns : List String) :
    (new table columns k).mapValues f = new table columns k := by
  simp [new, mapValues]

end Mysql.Draft

end SqlClauses
