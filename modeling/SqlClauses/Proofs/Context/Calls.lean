import SqlClauses.Proofs.Script.Splice
import SqlClauses.Proofs.Statement.Values

set_option autoImplicit false

namespace SqlClauses

namespace Template

inductive Filled : Template → List String → String → Prop where
  | nil : Filled [] [] ""
  | text (s : String) {rest : Template} {marks : List String} {behind : String} :
      Filled rest marks behind → Filled (.text s :: rest) marks (s ++ behind)
  | value (v : Value) (mark : String) {rest : Template} {marks : List String} {behind : String} :
      Filled rest marks behind → Filled (.value v :: rest) (mark :: marks) (mark ++ behind)

theorem filled_inline (t : Template) : t.Filled (t.values.map Value.literal) t.inline := by
  induction t with
  | nil => exact .nil
  | cons p rest ih =>
    cases p with
    | text s =>
      rw [inline_text_cons]
      exact .text s ih
    | value v =>
      rw [inline_value_cons]
      exact .value v _ ih

theorem filled_marked (style : Placeholder) (earlier : Nat) (t : Template) :
    t.Filled ((List.range' (earlier + 1) t.values.length).map style.mark)
      (t.marked style earlier) := by
  induction t generalizing earlier with
  | nil => exact .nil
  | cons p rest ih =>
    cases p with
    | text s =>
      rw [marked_text_cons]
      exact .text s (ih earlier)
    | value v =>
      rw [marked_value_cons, values, List.length_cons, List.range'_succ, List.map_cons]
      exact .value v _ (ih (earlier + 1))

end Template

namespace Context

inductive Call where
  | value (v : Value)
  | column (name : String)
  | qualifiedColumn (table : Option String) (name : String)
  | columns (names : List String)
  | expr (e : Expr)

namespace Call

def make : Call → Render (Option String)
  | .value v => some <$> Render.value v
  | .column name => some <$> Render.column name
  | .qualifiedColumn table name => some <$> Render.qualifiedColumn table name
  | .columns names => Render.columns names
  | .expr e => some <$> Render.expr e

def values : Call → List Value
  | .value v => [v]
  | .column _ => []
  | .qualifiedColumn _ _ => []
  | .columns _ => []
  | .expr e => e.values

def template (config : Config) : Call → Option Template
  | .value v => some [.value v]
  | .column name => some [.text (config.column name)]
  | .qualifiedColumn table name => some [.text (config.qualifiedColumn table name)]
  | .columns names => (config.columns names).map fun list => [.text list]
  | .expr e => some (e.template config)

def step : Call → Recipe.Step
  | .value v => .value v
  | .column name => .column none name
  | .qualifiedColumn table name => .column table name
  | .columns names => .columns names
  | .expr e => .expr e

variable (config : Config)

theorem render_step (c : Call) : c.step.render.run = c.make := by
  cases c <;> rfl

theorem piece_step (parameterized : Bool) (c : Call) :
    c.step.piece config parameterized = c.template config := by
  cases c <;> rfl

theorem values_template (c : Call) : (c.template config).elim [] Template.values = c.values := by
  cases c with
  | value v => rfl
  | column name => rfl
  | qualifiedColumn table name => rfl
  | columns names =>
    simp only [template]
    cases config.columns names <;> rfl
  | expr e => exact e.values_template config

theorem values_step (c : Call) : c.step.values config = c.values := by
  rw [Recipe.Step.values, piece_step, values_template]

end Call

-- The calls get these answers when the marks stand in the places of their values, each mark once
-- and in the order of the calls.
inductive Answered (config : Config) : List Call → List String → List (Option String) → Prop where
  | nil : Answered config [] [] []
  | absent {c : Call} {calls : List Call} {marks : List String} {answers : List (Option String)} :
      c.template config = none → Answered config calls marks answers →
        Answered config (c :: calls) marks (none :: answers)
  | written {c : Call} {calls : List Call} {t : Template} {own marks : List String}
      {text : String} {answers : List (Option String)} :
      c.template config = some t → t.Filled own text → Answered config calls marks answers →
        Answered config (c :: calls) (own ++ marks) (some text :: answers)

def answers (cx : Context) (calls : List Call) : List (Option String) :=
  ((calls.mapM Call.make).runFrom cx).1

def after (cx : Context) (calls : List Call) : Context :=
  ((calls.mapM Call.make).runFrom cx).2

structure CountsOn (cx : Context) (calls : List Call) : Prop where
  config : (cx.after calls).config = cx.config
  collects : (cx.after calls).isParameterized = true
  params : (cx.after calls).params = cx.params ++ calls.flatMap Call.values
  answered : Answered cx.config calls
    ((List.range' (cx.params.length + 1) (calls.flatMap Call.values).length).map
      cx.config.placeholder.mark)
    (cx.answers calls)

structure WritesLiterals (cx : Context) (calls : List Call) : Prop where
  unchanged : cx.after calls = cx
  params : (cx.after calls).params = []
  answered : Answered cx.config calls ((calls.flatMap Call.values).map Value.literal)
    (cx.answers calls)
  fresh : cx.answers calls = calls.map fun c => (c.make.runFrom (.inline cx.config)).1

section

variable (config : Config) (calls : List Call)

theorem mapM_make : calls.mapM Call.make = Recipe.ask (calls.map Call.step) := by
  have each : (fun c : Call => c.step.render.run) = Call.make := funext Call.render_step
  rw [Recipe.ask, List.mapM_map]
  exact congrArg calls.mapM each.symm

theorem runFrom_make_inline (c : Call) :
    c.make.runFrom (.inline config) =
      ((c.template config).map Template.inline, .inline config) := by
  rw [Render.runFrom, ← Call.render_step, Recipe.run_step_inline, Call.piece_step]
  rfl

theorem runFrom_make_collecting (values : Array Value) (c : Call) :
    c.make.runFrom ⟨config, some values⟩ =
      ((c.template config).map (Template.marked config.placeholder values.size),
        ⟨config, some (values ++ c.values.toArray)⟩) := by
  rw [Render.runFrom, ← Call.render_step, Recipe.run_step_collecting, Call.piece_step,
    Call.values_template]
  rfl

theorem runFrom_calls_inline :
    (calls.mapM Call.make).runFrom (.inline config) =
      (calls.map fun c => (c.template config).map Template.inline, .inline config) := by
  have literals : Recipe.literals config (calls.map Call.step) =
      calls.map fun c => (c.template config).map Template.inline := by
    simp [Recipe.literals, Call.piece_step]
  rw [Render.runFrom, mapM_make, Recipe.run_ask_inline, literals]
  rfl

theorem runFrom_calls_collecting (values : Array Value) :
    (calls.mapM Call.make).runFrom ⟨config, some values⟩ =
      (Recipe.texts config values.size (calls.map Call.step),
        ⟨config, some (values ++ (calls.flatMap Call.values).toArray)⟩) := by
  have own : (calls.map Call.step).flatMap (Recipe.Step.values config) =
      calls.flatMap Call.values := by
    simp [List.flatMap_map, Call.values_step]
  rw [Render.runFrom, mapM_make, Recipe.run_ask_collecting, own]
  rfl

theorem answered_inline :
    Answered config calls ((calls.flatMap Call.values).map Value.literal)
      (calls.map fun c => (c.template config).map Template.inline) := by
  induction calls with
  | nil => exact .nil
  | cons c rest ih =>
    have own := c.values_template config
    rw [List.flatMap_cons, List.map_append, List.map_cons, ← own]
    cases made : c.template config with
    | none => exact .absent made ih
    | some t => exact .written made t.filled_inline ih

theorem answered_collecting (earlier : Nat) :
    Answered config calls
      ((List.range' (earlier + 1) (calls.flatMap Call.values).length).map config.placeholder.mark)
      (Recipe.texts config earlier (calls.map Call.step)) := by
  induction calls generalizing earlier with
  | nil => exact .nil
  | cons c rest ih =>
    have own := c.values_template config
    have later := ih (earlier + c.values.length)
    rw [List.map_cons, Recipe.texts, Call.piece_step, Call.values_step, List.flatMap_cons,
      List.length_append, ← List.range'_append_1, List.map_append]
    rw [Nat.add_right_comm] at later
    cases made : c.template config with
    | none =>
      rw [made, Option.elim_none] at own
      rw [← own] at later ⊢
      exact .absent made later
    | some t =>
      rw [made, Option.elim_some] at own
      rw [← own] at later ⊢
      exact .written made (t.filled_marked config.placeholder earlier) later

end

theorem countsOn (config : Config) (values : Array Value) (calls : List Call) :
    CountsOn ⟨config, some values⟩ calls := by
  have run := runFrom_calls_collecting config calls values
  have ends : after ⟨config, some values⟩ calls =
      ⟨config, some (values ++ (calls.flatMap Call.values).toArray)⟩ := congrArg Prod.snd run
  have texts : answers ⟨config, some values⟩ calls =
      Recipe.texts config values.size (calls.map Call.step) := congrArg Prod.fst run
  constructor
  · rw [ends]
  · rw [ends]
    rfl
  · simp [ends, params]
  · rw [texts]
    exact answered_collecting config calls values.size

theorem writesLiterals (config : Config) (calls : List Call) :
    WritesLiterals (.inline config) calls := by
  have run := runFrom_calls_inline config calls
  have ends : after (.inline config) calls = .inline config := congrArg Prod.snd run
  have texts : answers (.inline config) calls =
      calls.map fun c => (c.template config).map Template.inline := congrArg Prod.fst run
  constructor
  · exact ends
  · rw [ends]
    rfl
  · rw [texts]
    exact answered_inline config calls
  · simp only [texts, config_inline, runFrom_make_inline]

theorem make_keeps_iff (cx : Context) (c : Call) :
    (c.make.runFrom cx).2 = cx ↔ cx.isParameterized = false ∨ c.values = [] := by
  obtain ⟨config, collected⟩ := cx
  cases collected with
  | none =>
    have run := runFrom_make_inline config c
    rw [inline] at run
    simp [run, isParameterized]
  | some values => simp [runFrom_make_collecting, isParameterized]

theorem placeholders_count_across_calls (cx : Context) (calls : List Call) :
    (match cx.collected with
      | some _ => CountsOn cx calls
      | none => WritesLiterals cx calls) ∧
      (∀ c : Call, (c.make.runFrom cx).2 = cx ↔ cx.isParameterized = false ∨ c.values = []) ∧
      ∀ (name : String) (table : Option String) (names : List String),
        (Render.column name).runFrom cx = (cx.config.column name, cx) ∧
          (Render.qualifiedColumn table name).runFrom cx =
            (cx.config.qualifiedColumn table name, cx) ∧
          (Render.columns names).runFrom cx = (cx.config.columns names, cx) := by
  refine ⟨?_, make_keeps_iff cx, fun name table names => ⟨rfl, rfl, rfl⟩⟩
  obtain ⟨config, collected⟩ := cx
  cases collected with
  | none => exact writesLiterals config calls
  | some values => exact countsOn config values calls

example :
    let cx : Context := ⟨{ placeholder := .numbered }, some #[.null]⟩
    let range : Expr := .between { name := "x" } false (.int 2) (.int 3)
    let calls : List Call :=
      [.value (.int 1), .columns [""], .expr (.not (.any [.raw "? OR $1", range])), .column "user",
        .expr (.any []), .value (.text "a")]
    cx.answers calls =
      [some "$2", none, some "NOT (? OR $1 OR x BETWEEN $3 AND $4)", some "\"user\"",
        some "1 = 0", some "$5"] := by
  decide +kernel

end Context

end SqlClauses
