import SqlClauses.Proofs.Registry.Runs
import SqlClauses.Proofs.Registry.Shown
import SqlClauses.Proofs.Script.Dropped

set_option autoImplicit false

namespace SqlClauses

namespace Template

theorem marked_question (earlier other : Nat) (t : Template) :
    t.marked .question earlier = t.marked .question other := by
  induction t generalizing earlier other with
  | nil => rfl
  | cons p rest ih =>
    cases p with
    | text s => simp [ih earlier other]
    | value v => simp [Placeholder.mark, ih (earlier + 1) (other + 1)]

end Template

namespace Recipe

-- All calls are made, also those behind one that has no text.
def ask (calls : Recipe) : Render (List (Option String)) :=
  calls.mapM fun (step : Step) => step.render.run

variable (config : Config)

def Step.values (step : Step) : List Value := (step.piece config true).elim [] Template.values

-- What the calls return when values are collected after `earlier` others.
def texts : Nat → Recipe → List (Option String)
  | _, [] => []
  | earlier, step :: rest =>
    (step.piece config true).map (Template.marked config.placeholder earlier) ::
      texts (earlier + (step.values config).length) rest

def literals (calls : Recipe) : List (Option String) :=
  calls.map fun step => (step.piece config false).map Template.inline

theorem run_step_inline (step : Step) :
    step.render.run.run (Context.inline config) =
      pure ((step.piece config false).map Template.inline, Context.inline config) := by
  cases step with
  | text s => simp [Step.render, Step.piece]
  | value v =>
    change (some <$> Render.value v).run (Context.inline config) = _
    simp [Step.piece]
  | column table name =>
    simp [Step.piece]
    rfl
  | columns names =>
    change (pure (config.columns names, Context.inline config) : Id (Option String × Context)) = _
    simp only [Step.piece]
    cases config.columns names <;> simp
  | expr e =>
    change (some <$> Render.expr e).run (Context.inline config) = _
    simp [Step.piece, Render.run_expr]
  | byMode inline marked =>
    simp [Step.piece]
    rfl
  | quote =>
    obtain ⟨quote, style⟩ := config
    cases quote <;> simp [Step.piece] <;> rfl

theorem run_ask_inline (calls : Recipe) :
    calls.ask.run (Context.inline config) =
      pure (calls.literals config, Context.inline config) := by
  induction calls with
  | nil => rfl
  | cons step rest ih =>
    rw [ask] at ih
    rw [ask, List.mapM_cons, StateT.run_bind, run_step_inline]
    simp [ih, literals]

theorem run_ask_collecting (calls : Recipe) (values : Array Value) :
    calls.ask.run ⟨config, some values⟩ =
      pure (calls.texts config values.size,
        ⟨config, some (values ++ (calls.flatMap (Step.values config)).toArray)⟩) := by
  induction calls generalizing values with
  | nil => simp [ask, texts]
  | cons step rest ih =>
    simp only [ask] at ih
    rw [ask, List.mapM_cons, StateT.run_bind, run_step_collecting]
    simp [ih, texts, Step.values]

theorem texts_question (calls : Recipe) (question : config.placeholder = .question)
    (earlier other : Nat) : calls.texts config earlier = calls.texts config other := by
  induction calls generalizing earlier other with
  | nil => rfl
  | cons step rest ih =>
    have here : Template.marked config.placeholder earlier =
        Template.marked config.placeholder other := by
      rw [question]
      exact funext (Template.marked_question earlier other)
    rw [texts, here, ih, texts]

theorem texts_silent (calls : Recipe) (silent : calls.flatMap (Step.values config) = [])
    (earlier other : Nat) : calls.texts config earlier = calls.texts config other := by
  induction calls generalizing earlier other with
  | nil => rfl
  | cons step rest ih =>
    rw [List.flatMap_cons, List.append_eq_nil_iff] at silent
    have here : (step.piece config true).map (Template.marked config.placeholder earlier) =
        (step.piece config true).map (Template.marked config.placeholder other) := by
      have quiet := silent.1
      unfold Step.values at quiet
      cases made : step.piece config true with
      | none => rfl
      | some t =>
        rw [made] at quiet
        rw [Option.map_some, Option.map_some, Template.marked_eq_inline _ _ t quiet,
          Template.marked_eq_inline _ _ t quiet]
    rw [texts, here, ih silent.2, texts]

theorem ask_ofTemplate (t : Template) :
    (ofTemplate t).ask = List.map some <$> t.mapM Render.piece := by
  induction t with
  | nil => rfl
  | cons p rest ih =>
    have step : ask (ofTemplate (p :: rest)) =
        (do return some (← Render.piece p) :: (← ask (ofTemplate rest))) := by
      cases p <;> simp [ask, ofTemplate, List.mapM_cons, Step.render, Render.piece]
    rw [step, ih]
    simp [List.mapM_cons]

end Recipe

-- A clause by the calls that its renderer makes on the context and by what it builds of the texts
-- that they return. The settings and the mode determine these texts but for the numbers in
-- placeholders, so these numbers are all that the calls themselves cannot depend on.
structure Composer (S : Type) where
  name : String
  calls : Config → Bool → S → Recipe
  fragment : Config → Bool → S → List (Option String) → Option String

namespace Composer

variable {S : Type}

def renderer (composer : Composer S) : Renderer S := fun s => do
  let config ← Render.config
  let parameterized ← Render.isParameterized
  return composer.fragment config parameterized s (← (composer.calls config parameterized s).ask)

def clause (composer : Composer S) : Clause S := ⟨composer.name, composer.renderer⟩

variable (composer : Composer S) (config : Config) (s : S)

def values : List Value := (composer.calls config true s).flatMap (Recipe.Step.values config)

theorem run_inline :
    (composer.renderer s).run (Context.inline config) =
      pure (composer.fragment config false s ((composer.calls config false s).literals config),
        Context.inline config) := by
  have calls := Recipe.run_ask_inline config (composer.calls config false s)
  have mode : Render.isParameterized.run (Context.inline config) =
      pure (false, Context.inline config) := rfl
  simp only [renderer, StateT.run_bind, Render.run_config, mode, pure_bind,
    Context.config_inline, calls]
  rfl

theorem run_collecting (values : Array Value) :
    (composer.renderer s).run ⟨config, some values⟩ =
      pure (composer.fragment config true s
          ((composer.calls config true s).texts config values.size),
        ⟨config, some (values ++ (composer.values config s).toArray)⟩) := by
  have calls := Recipe.run_ask_collecting config (composer.calls config true s) values
  have mode : Render.isParameterized.run ⟨config, some values⟩ =
      pure (true, ⟨config, some values⟩) := rfl
  simp only [renderer, StateT.run_bind, Render.run_config, mode, pure_bind, calls]
  rfl

-- The clauses of all statements are of this kind.
def ofTemplate (name : String) (template : Config → S → Option Template) : Composer S where
  name := name
  calls config _ s := Recipe.ofTemplate ((template config s).getD [])
  fragment config _ s texts := (template config s).map fun _ => String.join (texts.filterMap id)

theorem clause_ofTemplate (name : String) (template : Config → S → Option Template) :
    (ofTemplate name template).clause = Clause.ofTemplate name template := by
  refine Clause.eq_ofTemplate fun s cx => ?_
  have mode : Render.isParameterized.run cx = pure (cx.isParameterized, cx) := rfl
  cases made : template cx.config s <;>
    simp [clause, renderer, ofTemplate, Recipe.ask_ofTemplate, Render.fragment, Render.write, made,
      mode]

end Composer

namespace Registry

variable {S : Type}

def ofComposers (kind : Kind) (composers : List (Composer S)) : Registry S :=
  ⟨kind, composers.map Composer.clause⟩

variable (kind : Kind) (config : Config) (s : S)

theorem left_ofComposers_inline (composers : List (Composer S)) :
    (ofComposers kind composers).left (.inline config) s = .inline config := by
  induction composers with
  | nil => rfl
  | cons c rest ih =>
    have run := c.run_inline config s
    simp only [ofComposers] at ih
    simp only [ofComposers, List.map_cons, left_cons, Composer.clause, Render.runFrom, run]
    exact ih

theorem left_ofComposers_collecting (composers : List (Composer S)) (values : Array Value) :
    (ofComposers kind composers).left ⟨config, some values⟩ s =
      ⟨config, some (values ++ (composers.flatMap fun c => c.values config s).toArray)⟩ := by
  induction composers generalizing values with
  | nil => simp [ofComposers, left, render, Render.runFrom]
  | cons c rest ih =>
    have run := c.run_collecting config s values
    have later := ih (values ++ (c.values config s).toArray)
    simp only [ofComposers] at later
    simp only [ofComposers, List.map_cons, left_cons, Composer.clause, Render.runFrom, run]
    simpa using later

theorem left_parameterized (composers : List (Composer S)) :
    (ofComposers kind composers).left (.parameterized config) s =
      ⟨config, some (composers.flatMap fun c => c.values config s).toArray⟩ := by
  rw [Context.parameterized, left_ofComposers_collecting, Array.empty_append]

theorem params_ofComposers (composers : List (Composer S)) :
    ((ofComposers kind composers).prepare config s).params =
      composers.flatMap fun c => c.values config s := by
  rw [prepare_eq_shown, left_parameterized]
  rfl

theorem left_ofComposers_append (front back : List (Composer S)) (cx : Context) :
    (ofComposers kind (front ++ back)).left cx s =
      (ofComposers kind back).left ((ofComposers kind front).left cx s) s := by
  rw [ofComposers, List.map_append, left_append]
  rfl

theorem shown_ofComposers_append (front back : List (Composer S)) (cx : Context) :
    (ofComposers kind (front ++ back)).shown cx s =
      (ofComposers kind front).shown cx s ++
        (ofComposers kind back).shown ((ofComposers kind front).left cx s) s := by
  rw [ofComposers, List.map_append, shown_append]
  rfl

theorem shown_single (f : Composer S) (values : Array Value) :
    (ofComposers kind [f]).shown ⟨config, some values⟩ s =
      visible [(f.name, f.fragment config true s
        ((f.calls config true s).texts config values.size))] := by
  have run := f.run_collecting config s values
  have written : (ofComposers kind [f]).written ⟨config, some values⟩ s =
      [f.fragment config true s ((f.calls config true s).texts config values.size)] := by
    rw [ofComposers, List.map_singleton, written_cons]
    simp only [Composer.clause, Render.runFrom, run]
    rfl
  rw [shown, written]
  rfl

-- A clause without values of its own does not see how many others there are.
theorem shown_single_silent (f : Composer S) (silent : f.values config s = [])
    (values others : Array Value) :
    (ofComposers kind [f]).shown ⟨config, some values⟩ s =
      (ofComposers kind [f]).shown ⟨config, some others⟩ s := by
  rw [shown_single, shown_single, Recipe.texts_silent config _ silent]

theorem shown_question (composers : List (Composer S)) (question : config.placeholder = .question)
    (values others : Array Value) :
    (ofComposers kind composers).shown ⟨config, some values⟩ s =
      (ofComposers kind composers).shown ⟨config, some others⟩ s := by
  induction composers generalizing values others with
  | nil => rfl
  | cons c rest ih =>
    have here : (ofComposers kind [c]).shown ⟨config, some values⟩ s =
        (ofComposers kind [c]).shown ⟨config, some others⟩ s := by
      rw [shown_single, shown_single, Recipe.texts_question config _ question]
    rw [← List.singleton_append, shown_ofComposers_append, shown_ofComposers_append, here,
      left_ofComposers_collecting, left_ofComposers_collecting]
    congr 1
    exact ih _ _

theorem shown_inline_append (front back : List (Composer S)) :
    (ofComposers kind (front ++ back)).shown (.inline config) s =
      (ofComposers kind front).shown (.inline config) s ++
        (ofComposers kind back).shown (.inline config) s := by
  rw [shown_ofComposers_append, left_ofComposers_inline]

theorem shown_question_append (front back : List (Composer S))
    (question : config.placeholder = .question) :
    (ofComposers kind (front ++ back)).shown (.parameterized config) s =
      (ofComposers kind front).shown (.parameterized config) s ++
        (ofComposers kind back).shown (.parameterized config) s := by
  rw [shown_ofComposers_append, left_parameterized,
    shown_question kind config s back question _ #[], Context.parameterized]

theorem params_append (front back : List (Composer S)) :
    ((ofComposers kind (front ++ back)).prepare config s).params =
      ((ofComposers kind front).prepare config s).params ++
        ((ofComposers kind back).prepare config s).params := by
  simp only [params_ofComposers, List.flatMap_append]

theorem prepare_eq_of_unseen {f : Composer S} (front back : List (Composer S))
    (silent : f.values config s = [])
    (absent : (ofComposers kind [f]).shown (.parameterized config) s = []) :
    (ofComposers kind (front ++ [f] ++ back)).prepare config s =
      (ofComposers kind (front ++ back)).prepare config s := by
  let reached := (ofComposers kind front).left (.parameterized config) s
  have unseen : (ofComposers kind [f]).shown reached s = [] := by
    rw [← absent]
    simp only [reached, left_parameterized]
    exact shown_single_silent kind config s f silent _ #[]
  have unchanged : (ofComposers kind [f]).left reached s = reached := by
    simp only [reached, left_parameterized, left_ofComposers_collecting, List.flatMap_singleton,
      silent, Array.append_empty]
  have texts : (ofComposers kind (front ++ [f] ++ back)).shown (.parameterized config) s =
      (ofComposers kind (front ++ back)).shown (.parameterized config) s := by
    rw [shown_ofComposers_append, shown_ofComposers_append, left_ofComposers_append, unseen,
      unchanged, List.append_nil, shown_ofComposers_append]
  have ends : (ofComposers kind (front ++ [f] ++ back)).left (.parameterized config) s =
      (ofComposers kind (front ++ back)).left (.parameterized config) s := by
    rw [left_ofComposers_append, left_ofComposers_append, unchanged, left_ofComposers_append]
  rw [prepare_eq_shown, prepare_eq_shown, texts, ends]

-- How a run over `extended` compares with one over `whole`, when `extended` has `one` in between
-- `front` and `back`.
structure Spliced (whole extended front one back : Registry S) (config : Config) (s : S) :
    Prop where
  wholeInline : whole.shown (.inline config) s =
    front.shown (.inline config) s ++ back.shown (.inline config) s
  extendedInline : extended.shown (.inline config) s =
    front.shown (.inline config) s ++ one.shown (.inline config) s ++
      back.shown (.inline config) s
  toSql : extended.toSql config s = " ".intercalate
    ((front.shown (.inline config) s ++ one.shown (.inline config) s ++
      back.shown (.inline config) s).map Prod.snd)
  wholeParams : (whole.prepare config s).params =
    (front.prepare config s).params ++ (back.prepare config s).params
  extendedParams : (extended.prepare config s).params =
    (front.prepare config s).params ++ (one.prepare config s).params ++
      (back.prepare config s).params
  -- The texts in front do not change. Those behind start from what is collected by then.
  wholeMarked : whole.shown (.parameterized config) s =
    front.shown (.parameterized config) s ++ back.shown (front.left (.parameterized config) s) s
  extendedMarked : extended.shown (.parameterized config) s =
    front.shown (.parameterized config) s ++ one.shown (front.left (.parameterized config) s) s ++
      back.shown (one.left (front.left (.parameterized config) s) s) s
  text : (extended.prepare config s).text =
    " ".intercalate ((extended.shown (.parameterized config) s).map Prod.snd)
  wholeQuestion : config.placeholder = .question → whole.shown (.parameterized config) s =
    front.shown (.parameterized config) s ++ back.shown (.parameterized config) s
  extendedQuestion : config.placeholder = .question → extended.shown (.parameterized config) s =
    front.shown (.parameterized config) s ++ one.shown (.parameterized config) s ++
      back.shown (.parameterized config) s
  invisibleInline : one.shown (.inline config) s = [] →
    extended.toSql config s = whole.toSql config s
  invisiblePrepared : one.shown (.parameterized config) s = [] →
    (one.prepare config s).params = [] → extended.prepare config s = whole.prepare config s

theorem spliced (front : List (Composer S)) (f : Composer S) (back : List (Composer S)) :
    Spliced (ofComposers kind (front ++ back)) (ofComposers kind (front ++ [f] ++ back))
      (ofComposers kind front) (ofComposers kind [f]) (ofComposers kind back) config s := by
  have extendedInline : (ofComposers kind (front ++ [f] ++ back)).shown (.inline config) s =
      (ofComposers kind front).shown (.inline config) s ++
        (ofComposers kind [f]).shown (.inline config) s ++
          (ofComposers kind back).shown (.inline config) s := by
    rw [shown_inline_append, shown_inline_append]
  constructor
  case wholeInline => exact shown_inline_append kind config s front back
  case extendedInline => exact extendedInline
  case toSql => rw [toSql_eq_shown, extendedInline]
  case wholeParams => exact params_append kind config s front back
  case extendedParams => rw [params_append, params_append]
  case wholeMarked => exact shown_ofComposers_append kind s front back _
  case extendedMarked =>
    rw [shown_ofComposers_append, shown_ofComposers_append, left_ofComposers_append]
  case text => rw [prepare_eq_shown]
  case wholeQuestion => exact shown_question_append kind config s front back
  case extendedQuestion =>
    intro question
    rw [shown_question_append kind config s _ _ question,
      shown_question_append kind config s _ _ question]
  case invisibleInline =>
    intro absent
    rw [toSql_eq_shown, toSql_eq_shown, extendedInline, absent, List.append_nil,
      shown_inline_append]
  case invisiblePrepared =>
    intro absent silent
    rw [params_ofComposers, List.flatMap_singleton] at silent
    exact prepare_eq_of_unseen kind config s front back silent absent

theorem names_ofComposers (composers : List (Composer S)) :
    Clause.names (composers.map Composer.clause) = composers.map Composer.name := by
  simp [Clause.names, Composer.clause]

theorem insertAfter_ofComposers {before after : List (Composer S)} {a f : Composer S}
    (first : a.name ∉ before.map Composer.name)
    (fresh : f.name ∉ (before ++ a :: after).map Composer.name) :
    (ofComposers kind (before ++ a :: after)).insertAfter a.name f.clause =
      .ok (ofComposers kind (before ++ a :: f :: after)) := by
  have known : a.name ∈ (before ++ a :: after).map Composer.name := by simp
  rw [← names_ofComposers] at first fresh known
  have behind : f.clause.placeAfter a.name ((before ++ a :: after).map Composer.clause) =
      (before ++ a :: f :: after).map Composer.clause := by
    rw [List.map_append, List.map_cons]
    have here := Clause.placeAfter_append (a := a.clause) f.clause (before.map Composer.clause)
      (after.map Composer.clause) first rfl
    simpa using here
  have other : f.name ≠ a.name := by
    intro same
    rw [same] at fresh
    exact fresh known
  have moved : ofComposers kind (before ++ a :: f :: after) =
      ((ofComposers kind (before ++ a :: after)).remove f.name).insertBehind a.name f.clause := by
    rw [remove_of_not_mem _ _ fresh, insertBehind_eq_placeAfter _ _ _ known]
    simp only [ofComposers, behind]
  rw [insertAfter_eq_ok_iff, contains_iff_mem]
  exact ⟨other, known, moved⟩

theorem inserted_clause_is_spliced {S : Type} (kind : Kind) (composers : List (Composer S))
    (anchor : String) (f : Composer S) (known : anchor ∈ composers.map Composer.name)
    (fresh : f.name ∉ composers.map Composer.name) :
    ∃ before a after, a.name = anchor ∧ composers = before ++ [a] ++ after ∧
      (ofComposers kind composers).insertAfter anchor f.clause =
        .ok (ofComposers kind (before ++ [a] ++ [f] ++ after)) ∧
      ∀ (config : Config) (s : S),
        Spliced (ofComposers kind composers) (ofComposers kind (before ++ [a] ++ [f] ++ after))
          (ofComposers kind (before ++ [a])) (ofComposers kind [f]) (ofComposers kind after)
          config s := by
  obtain ⟨before, a, after, split, rfl, first⟩ := exists_first_named Composer.name known
  have accepted := insertAfter_ofComposers kind first (split ▸ fresh)
  rw [← split, List.append_cons before a, List.append_cons (before ++ [a])] at accepted
  rw [List.append_cons] at split
  refine ⟨before, a, after, rfl, split, accepted, fun config s => ?_⟩
  rw [split]
  exact spliced kind config s (before ++ [a]) f after

theorem inserted_period_is_spliced :
    let head := Composer.ofTemplate "delete" fun config s => some (Delete.headTemplate config s)
    let condition := Composer.ofTemplate "where" fun config s =>
      Clause.conditionTemplate "WHERE" config (Delete.condition s)
    let period : Composer Delete := ⟨"period", fun _ _ _ => [.value (.int 42)],
      fun _ _ _ texts => some ("AS OF " ++ String.join (texts.filterMap id))⟩
    let config : Config := { placeholder := .numbered }
    let s : Delete := { table := "t", condition := some (.compare { name := "id" } .eq (.int 7)) }
    let extended := ofComposers .delete [head, period, condition]
    "delete" ∈ [head, condition].map Composer.name ∧
      period.name ∉ [head, condition].map Composer.name ∧
      Delete.clauses.insertAfter "delete" period.clause = .ok extended ∧
      extended.toSql config s = "DELETE FROM t AS OF 42 WHERE id = 7" ∧
      (extended.prepare config s).text = "DELETE FROM t AS OF $1 WHERE id = $2" ∧
      (extended.prepare config s).params = [.int 42, .int 7] ∧
      Spliced Delete.clauses extended (ofComposers .delete [head]) (ofComposers .delete [period])
        (ofComposers .delete [condition]) config s := by
  intro head condition period config s extended
  have known : "delete" ∈ [head, condition].map Composer.name := by decide
  have fresh : period.name ∉ [head, condition].map Composer.name := by decide
  have all : ofComposers .delete [head, condition] = Delete.clauses := by
    rw [Delete.clauses_eq]
    simp only [ofComposers, List.map_cons, List.map_nil, head, condition,
      Composer.clause_ofTemplate]
  obtain ⟨before, a, after, named, split, accepted, comparison⟩ :=
    inserted_clause_is_spliced .delete [head, condition] "delete" period known fresh
  cases before with
  | nil =>
    obtain ⟨rfl, rest⟩ := List.cons_eq_cons.mp split
    obtain rfl : after = [condition] := rest.symm
    rw [all] at accepted comparison
    exact ⟨known, fresh, accepted, by decide +kernel, by decide +kernel, by rfl,
      comparison config s⟩
  | cons b rest =>
    obtain ⟨-, behind⟩ := List.cons_eq_cons.mp split
    have last : a = condition := by
      have member : a ∈ [condition] := behind ▸ (by simp)
      exact List.mem_singleton.mp member
    rw [last] at named
    exact absurd named (by decide)

end Registry

end SqlClauses
