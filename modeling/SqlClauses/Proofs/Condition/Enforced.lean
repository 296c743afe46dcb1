import SqlClauses.Proofs.Condition.Conjoined
import SqlClauses.Proofs.Mysql.Calls
import SqlClauses.Proofs.Mysql.Fragments

set_option autoImplicit false

namespace SqlClauses

open Syntax

inductive Filter : Kind → Type where
  | selected : Filter .select
  | grouped : Filter .select
  | updated : Filter .update
  | deleted : Filter .delete

namespace Filter

variable {k : Kind}

def name : Filter k → String
  | .grouped => "having"
  | _ => "where"

def keyword : Filter k → String
  | .grouped => "HAVING"
  | _ => "WHERE"

def condition : {k : Kind} → Filter k → Statement k → Option Expr
  | _, .selected, s => Select.condition s
  | _, .grouped, s => Select.having s
  | _, .updated, s => Update.condition s
  | _, .deleted, s => Delete.condition s

def added : {k : Kind} → Filter k → Statement.Edit k → Option Expr
  | _, .selected, e => match e with
    | Select.Edit.condition e => some e
    | _ => none
  | _, .grouped, e => match e with
    | Select.Edit.having e => some e
    | _ => none
  | _, .updated, e => match e with
    | Update.Edit.condition e => some e
    | _ => none
  | _, .deleted, e => match e with
    | Delete.Edit.condition e => some e

def earlier : {k : Kind} → Filter k → Statement k → List Value
  | _, .selected, _ => []
  | _, .grouped, s => Statement.valuesOfCondition (Select.condition s)
  | _, .updated, s => (Update.assignments s).flatMap Assignment.values
  | _, .deleted, _ => []

theorem condition_edit (f : Filter k) (s : Statement k) (e : Statement.Edit k) :
    f.condition (s.edit e) =
      match f.added e with
      | none => f.condition s
      | some x => some (Expr.addTo (f.condition s) x) := by
  cases f <;> cases e <;> rfl

theorem condition_run (f : Filter k) (s : Statement k) (edits : List (Statement.Edit k)) :
    f.condition (edits.foldl Statement.edit s) =
      (edits.filterMap f.added).foldl (fun earlier e => some (Expr.addTo earlier e))
        (f.condition s) := by
  induction edits generalizing s with
  | nil => rfl
  | cons e rest ih =>
    rw [List.foldl_cons, ih, condition_edit]
    cases adds : f.added e <;> simp [adds]

theorem condition_new (f : Filter k) (table : String) (columns : List String) :
    f.condition (Statement.new table columns k) = none := by
  cases f <;> rfl

theorem condition_added (f : Filter k) (table : String) (columns : List String)
    (edits : List (Statement.Edit k)) {first : Expr} {rest : List Expr}
    (added : edits.filterMap f.added = first :: rest) :
    f.condition (edits.foldl Statement.edit (Statement.new table columns k)) =
      some (rest.foldl Expr.and first) := by
  rw [condition_run, added, condition_new]
  exact Expr.foldl_addTo first rest

end Filter

namespace Template

theorem markedFragments_append (style : Placeholder) (earlier : Nat)
    (front back : List (Option Template)) :
    markedFragments style earlier (front ++ back) =
      markedFragments style earlier front ++
        markedFragments style (earlier + (front.flatMap fun f => f.elim [] values).length)
          back := by
  induction front generalizing earlier with
  | nil => rfl
  | cons f front ih => cases f <;> simp [markedFragments, ih, Nat.add_assoc]

@[simp] theorem length_markedFragments (style : Placeholder) (earlier : Nat)
    (fragments : List (Option Template)) :
    (markedFragments style earlier fragments).length = fragments.length := by
  induction fragments generalizing earlier with
  | nil => rfl
  | cons f rest ih => cases f <;> simp [markedFragments, ih]

end Template

namespace Registry

variable {S T : Type}

structure Stands (R : Registry S) (fragments front : List (Option Template)) (name : String)
    (t : Template) : Prop where
  split : ∃ back, fragments = front ++ some t :: back
  named : ∃ before after, R.names = before ++ name :: after ∧ before.length = front.length

-- Both texts of the statement are assembled of what its clauses write, and the clause called `name`
-- writes its keyword and a condition that says `m`. Parameters are bound to it after the `earlier`
-- ones.
structure Enforces (R : Registry S) (config : Config) (s : S) (name keyword : String)
    (earlier : List Value) (m : Reading) : Prop where
  assembled : R.toSql config s = assemble (R.written (.inline config) s) ∧
    (R.prepare config s).text = assemble (R.written (.parameterized config) s)
  inline : ∃ text c,
    (name, some (keyword ++ " " ++ text)) ∈ R.names.zip (R.written (.inline config) s) ∧
      parseText text = some c ∧
      ∀ W, RespectsConstants W → c.truth W = m Spelling.literalOperand W
  prepared : ∃ text c,
    (name, some (keyword ++ " " ++ text)) ∈ R.names.zip (R.written (.parameterized config) s) ∧
      parseBound (R.prepare config s).params earlier.length text = some c ∧
      ∀ W, RespectsConstants W → c.truth W = m .value W

variable {R : Registry S} {config : Config} {s : S} {fragments front : List (Option Template)}

theorem Stands.append {name : String} {t : Template} (stands : R.Stands fragments front name t)
    {more : Registry T} (names : List String) (extended : more.names = R.names ++ names)
    (later : List (Option Template)) : more.Stands (fragments ++ later) front name t where
  split := by
    obtain ⟨back, rfl⟩ := stands.split
    exact ⟨back ++ later, by simp⟩
  named := by
    obtain ⟨before, after, same, length⟩ := stands.named
    exact ⟨before, after ++ names, by simp [extended, same], length⟩

theorem mem_zip_of_split {A B : Type} {before after : List A} {front back : List B} {a : A} {b : B}
    (length : before.length = front.length) :
    (a, b) ∈ (before ++ a :: after).zip (front ++ b :: back) := by
  rw [List.zip_append length]
  simp

theorem Gives.enforces (gives : R.Gives config s fragments) {name keyword : String}
    {t : Template} (stands : R.Stands fragments front name (.text (keyword ++ " ") :: t))
    {m : Reading} (expresses : Expresses t m) :
    R.Enforces config s name keyword (front.flatMap fun f => f.elim [] Template.values) m := by
  obtain ⟨back, split⟩ := stands.split
  obtain ⟨before, after, names, length⟩ := stands.named
  refine ⟨R.assembled config s, ?_, ?_⟩
  · obtain ⟨c, parsed, truth⟩ := expresses.inline
    refine ⟨t.inline, c, ?_, parsed, truth⟩
    rw [gives.written_inline, names, split, List.map_append, List.map_cons]
    simpa using mem_zip_of_split (by simpa using length)
  · obtain ⟨c, parsed, truth⟩ := expresses.marked config.placeholder
      (front.flatMap fun f => f.elim [] Template.values)
      (back.flatMap fun f => f.elim [] Template.values)
    refine ⟨t.marked config.placeholder (front.flatMap fun f => f.elim [] Template.values).length,
      c, ?_, ?_, truth⟩
    · rw [Context.parameterized, gives.written_collecting, names, split,
        Template.markedFragments_append, Template.markedFragments]
      simpa using mem_zip_of_split (by simpa using length)
    · rw [gives.twoReadings.params, Template.values_ofFragments, split]
      simpa [Template.values] using parsed

end Registry

theorem Filter.stands (config : Config) {k : Kind} (f : Filter k) (s : Statement k) {e : Expr}
    (present : f.condition s = some e) :
    ∃ front, (Statement.clauses k).Stands (Statement.fragments config s) front f.name
        (.text (f.keyword ++ " ") :: e.template config) ∧
      (front.flatMap fun f => f.elim [] Template.values) = f.earlier s := by
  have given (keyword : String) {condition : Option Expr} (h : condition = some e) :
      Clause.conditionTemplate keyword config condition =
        some (.text (keyword ++ " ") :: e.template config) := by
    rw [h]
    rfl
  cases f with
  | selected =>
    refine ⟨[some (Select.headTemplate config s),
      Clause.columnsTemplate "FROM" config s.tables, Select.joinsTemplate config s.joins],
      ⟨?_, ["select", "from", "join"], _, rfl, rfl⟩, ?_⟩
    · have here : Clause.conditionTemplate "WHERE" config (Select.condition s) = _ :=
        given _ present
      rw [Statement.fragments, Select.fragments, here]
      exact ⟨_, rfl⟩
    · simp [Select.headTemplate, Template.values, Clause.values_columnsTemplate,
        Select.values_joinsTemplate, earlier]
  | grouped =>
    refine ⟨[some (Select.headTemplate config s),
      Clause.columnsTemplate "FROM" config s.tables, Select.joinsTemplate config s.joins,
      Clause.conditionTemplate "WHERE" config s.condition,
      Clause.columnsTemplate "GROUP BY" config s.grouping],
      ⟨?_, ["select", "from", "join", "where", "group_by"], _, rfl, rfl⟩, ?_⟩
    · have here : Clause.conditionTemplate "HAVING" config (Select.having s) = _ :=
        given _ present
      rw [Statement.fragments, Select.fragments, here]
      exact ⟨_, rfl⟩
    · simp [Select.headTemplate, Template.values, Clause.values_columnsTemplate,
        Select.values_joinsTemplate, Clause.values_conditionTemplate, earlier]
  | updated =>
    refine ⟨[some (Update.headTemplate config s), Update.assignedTemplate config s.assignments],
      ⟨?_, ["update", "set"], _, rfl, rfl⟩, ?_⟩
    · have here : Clause.conditionTemplate "WHERE" config (Update.condition s) = _ :=
        given _ present
      rw [Statement.fragments, Update.fragments, here]
      exact ⟨_, rfl⟩
    · simp [Update.headTemplate, Template.values, Update.values_assignedTemplate, earlier]
  | deleted =>
    refine ⟨[some (Delete.headTemplate config s)], ⟨?_, ["delete"], _, rfl, rfl⟩, ?_⟩
    · have here : Clause.conditionTemplate "WHERE" config (Delete.condition s) = _ :=
        given _ present
      rw [Statement.fragments, Delete.fragments, here]
      exact ⟨_, rfl⟩
    · simp [Delete.headTemplate, Template.values, earlier]

namespace Mysql

-- MySQL puts nothing in front of a filter.
theorem stands_filter (config : Config) {k : Kind} (f : Filter k) (d : Draft k)
    {front : List (Option Template)} {t : Template}
    (stands : (Statement.clauses k).Stands (Statement.fragments config d.base) front f.name t) :
    (clauses k).Stands (d.fragments config) front f.name t := by
  cases f with
  | selected | grouped => exact stands.append ["limit", "offset"] rfl _
  | updated | deleted => exact stands.append ["order_by", "limit"] rfl _

theorem added_conditions_are_enforced (config : Config)
    (quoted : config.quote = some '"' ∨ config.quote = some '`') {k : Kind} (f : Filter k)
    (table : String) (columns : List String) (edits : List (Draft.Edit k)) :
    let base := edits.filterMap Draft.Edit.base?
    let added := base.filterMap f.added
    let s := base.foldl Statement.edit (Statement.new table columns k)
    let b := edits.foldl Builder.edit ((Grammar.withConfig config).build table columns k)
    added ≠ [] → (∀ e ∈ added, e.IsAddable) → (added.length = 1 ∨ ∀ e ∈ added, e.IsTight) →
      (Statement.clauses k).Enforces config s f.name f.keyword (f.earlier s)
          (fun operand W => Expr.conjunction operand W added) ∧
        (b.grammar.registry k).Enforces b.grammar.config b.draft f.name f.keyword (f.earlier s)
          fun operand W => Expr.conjunction operand W added := by
  intro base added s b nonempty addable safe
  obtain ⟨quote, configured, known⟩ :
      ∃ quote, config.quote = some quote ∧ (quote = '"' ∨ quote = '`') := by
    rcases quoted with configured | configured
    · exact ⟨_, configured, .inl rfl⟩
    · exact ⟨_, configured, .inr rfl⟩
  obtain ⟨first, rest, shape⟩ := List.exists_cons_of_ne_nil nonempty
  have present : f.condition s = some (rest.foldl Expr.and first) :=
    f.condition_added table columns base shape
  obtain ⟨front, stands, earlier⟩ := f.stands config s present
  have expresses : Expresses ((rest.foldl Expr.and first).template config)
      fun operand W => Expr.conjunction operand W added := by
    rw [shape] at addable safe ⊢
    exact Expr.expresses_added configured known first rest addable
      (safe.imp_left fun single => by simpa using single)
  have run : b = ⟨edits.foldl Draft.edit (Draft.new table columns k), .withConfig config⟩ :=
    Builder.run _ _
  have same : b.draft.base = s := by
    rw [run]
    exact Draft.base_run _ _
  rw [← earlier]
  refine ⟨(Statement.clauses_gives config s).enforces stands expresses, ?_⟩
  rw [← same] at stands
  have placed := stands_filter config f b.draft stands
  rw [run] at placed ⊢
  exact (Draft.clauses_gives config _).enforces placed expresses

theorem raw_and_group_are_enforced :
    let raw : Expr := .raw "a = 1 AND NOT (b = 2 OR c)"
    let group : Expr :=
      .any [.compare { name := "d" } .eq (.text "'"), .isNull { name := "e" } false]
    let edits : List (Draft.Edit .delete) :=
      [.base (.condition raw), .extra (.limit (some 5)), .base (.condition group)]
    let b := edits.foldl Builder.edit ((Grammar.withConfig {}).build "t" [] .delete)
    raw.IsAddable ∧ group.IsAddable ∧ raw.IsTight ∧ group.IsTight ∧
      b.toSql =
        "DELETE FROM t WHERE a = 1 AND NOT (b = 2 OR c) AND (d = '''' OR e IS NULL) LIMIT 5" ∧
      (b.grammar.registry .delete).Enforces b.grammar.config b.draft "where" "WHERE" []
        fun operand W => Expr.conjunction operand W [raw, group] := by
  intro raw group edits b
  have rawAddable : raw.IsAddable := by
    change (parseText "a = 1 AND NOT (b = 2 OR c)").isSome = true
    decide +kernel
  have d : Column.IsPath { name := "d" } := by decide
  have e : Column.IsPath { name := "e" } := by decide
  have groupAddable : group.IsAddable := ⟨d, e, trivial⟩
  have rawTight : raw.IsTight := by
    change ((tokens "a = 1 AND NOT (b = 2 OR c)").bind (whole (.chain .and))).isSome = true
    decide +kernel
  have text : b.toSql =
      "DELETE FROM t WHERE a = 1 AND NOT (b = 2 OR c) AND (d = '''' OR e IS NULL) LIMIT 5" := by
    decide +kernel
  obtain ⟨-, enforced⟩ := added_conditions_are_enforced {} (.inl rfl) .deleted "t" [] edits
    (List.cons_ne_nil raw [group])
    (List.forall_mem_cons.mpr ⟨rawAddable, List.forall_mem_singleton.mpr groupAddable⟩)
    (.inr (List.forall_mem_cons.mpr ⟨rawTight, List.forall_mem_singleton.mpr trivial⟩))
  exact ⟨rawAddable, groupAddable, rawTight, trivial, text, enforced⟩

-- Comparisons of one column hold, and those of equal numerals.
def onlyTrueOf (column : String) : Atom → Truth
  | .compare (.reference path) _ _ => .ofBool (path = [column.toList])
  | .compare (.number n) _ (.number m) => .ofBool (n = m)
  | _ => .false

-- A row that fails the second condition is chosen because the first one has an OR: AND binds it to
-- the last of the alternatives.
theorem raw_or_escapes_later_condition :
    let first : Expr := .raw "a = 1 OR b = 2"
    let second : Expr := .compare { name := "c" } .eq (.int 3)
    let edits : List (Statement.Edit .delete) := [.condition first, .condition second]
    let s := edits.foldl Statement.edit (.new "t" [] .delete)
    first.IsAddable ∧ second.IsAddable ∧
      s.toSql {} = "DELETE FROM t WHERE a = 1 OR b = 2 AND c = 3" ∧
      ∃ c W, parseText "a = 1 OR b = 2 AND c = 3" = some c ∧ RespectsConstants W ∧
        c.truth W = .true ∧
        Expr.conjunction Spelling.literalOperand W [first, second] = .false := by
  intro first second edits s
  let W := onlyTrueOf "a"
  have addable : first.IsAddable := by
    change (parseText "a = 1 OR b = 2").isSome = true
    decide +kernel
  have path : Column.IsPath { name := "c" } := by decide
  have read : (parseText "a = 1 OR b = 2 AND c = 3").map (Condition.truth W) = some .true := by
    decide +kernel
  obtain ⟨c, parsed, holds⟩ := Option.map_eq_some_iff.mp read
  refine ⟨addable, path, by decide +kernel, c, W, parsed, ?_, holds, ?_⟩
  · intro constant
    cases constant <;> rfl
  · decide +kernel

end Mysql

end SqlClauses
