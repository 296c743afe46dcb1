import SqlClauses.Proofs.Template.Expr
import SqlClauses.Proofs.Template.Join
import SqlClauses.Recipe

set_option autoImplicit false

namespace SqlClauses

theorem Template.values_flatten (ts : List Template) :
    values ts.flatten = ts.flatMap values := by
  induction ts with
  | nil => rfl
  | cons t rest ih => simp [ih]

theorem Template.join_markedEach (style : Placeholder) (earlier : Nat) (ts : List Template) :
    String.join (markedEach style earlier ts) = marked style earlier ts.flatten := by
  induction ts generalizing earlier with
  | nil => rfl
  | cons t rest ih => simp [markedEach, ih]

namespace Recipe

def Step.piece (config : Config) (parameterized : Bool) : Step → Option Template
  | .text s => some [.text s]
  | .value v => some [.value v]
  | .column table name => some [.text (config.qualifiedColumn table name)]
  | .columns names => (config.columns names).map fun list => [.text list]
  | .expr e => some (e.template config)
  | .byMode inline marked => some [.text (if parameterized then marked else inline)]
  | .quote => some [.text (config.quote.elim "" Char.toString)]

def made (config : Config) (parameterized : Bool) : Recipe → List Template × Bool
  | [] => ([], true)
  | step :: rest =>
    match step.piece config parameterized with
    | none => ([], false)
    | some t =>
      let (later, complete) := made config parameterized rest
      (t :: later, complete)

variable (config : Config) (values : Array Value)

theorem run_step_collecting (step : Step) :
    step.render.run.run ⟨config, some values⟩ =
      pure ((step.piece config true).map (Template.marked config.placeholder values.size),
        ⟨config, some (values ++ ((step.piece config true).elim [] Template.values).toArray)⟩) := by
  cases step with
  | text s => simp [Step.render, Step.piece, Template.values]
  | value v =>
    change (some <$> Render.value v).run ⟨config, some values⟩ = _
    simp [Step.piece, Template.values]
  | column table name =>
    change (pure (some (config.qualifiedColumn table name), ⟨config, some values⟩) :
      Id (Option String × Context)) = _
    simp [Step.piece, Template.values]
  | columns names =>
    change (pure (config.columns names, ⟨config, some values⟩) : Id (Option String × Context)) = _
    simp only [Step.piece]
    cases config.columns names <;> simp [Template.values]
  | expr e =>
    change (some <$> Render.expr e).run ⟨config, some values⟩ = _
    simp [Step.piece, Render.run_expr]
  | byMode inline marked =>
    change (pure (some marked, ⟨config, some values⟩) : Id (Option String × Context)) = _
    simp [Step.piece, Template.values]
  | quote =>
    obtain ⟨quote, style⟩ := config
    cases quote with
    | none =>
      change (pure (some "", ⟨⟨none, style⟩, some values⟩) : Id (Option String × Context)) = _
      simp [Step.piece, Template.values]
    | some q =>
      change (pure (some q.toString, ⟨⟨some q, style⟩, some values⟩) :
        Id (Option String × Context)) = _
      simp [Step.piece, Template.values]

theorem run_steps_collecting (recipe : Recipe) :
    (recipe.mapM Step.render).run.run ⟨config, some values⟩ =
      pure (if (recipe.made config true).2 then
          some (Template.markedEach config.placeholder values.size (recipe.made config true).1)
        else none,
        ⟨config, some (values ++
          ((recipe.made config true).1.flatMap Template.values).toArray)⟩) := by
  induction recipe generalizing values with
  | nil => simp [made, Template.markedEach]
  | cons step rest ih =>
    have first := run_step_collecting config values step
    rw [List.mapM_cons, OptionT.run_bind]
    cases piece : step.piece config true with
    | none =>
      simp only [piece, Option.map_none] at first
      simp [first, made, piece, Option.elimM]
    | some t =>
      simp only [piece, Option.map_some] at first
      simp [first, made, piece, Option.elimM, ih, Template.markedEach]

def pieces (config : Config) (parameterized : Bool) (recipe : Recipe) : Template :=
  (recipe.made config parameterized).1.flatten

def complete (config : Config) (parameterized : Bool) (recipe : Recipe) : Bool :=
  (recipe.made config parameterized).2

theorem run_render_collecting (recipe : Recipe) :
    recipe.render.run ⟨config, some values⟩ =
      pure (if recipe.complete config true then
          some ((recipe.pieces config true).marked config.placeholder values.size)
        else none,
        ⟨config, some (values ++ (recipe.pieces config true).values.toArray)⟩) := by
  have steps := run_steps_collecting config values recipe
  unfold render
  rw [OptionT.run_map, StateT.run_map, steps]
  cases all : recipe.complete config true with
  | false =>
    simp only [complete] at all
    simp [pieces, all, Template.values_flatten]
  | true =>
    simp only [complete] at all
    simp [pieces, all, Template.values_flatten, Template.join_markedEach]

end Recipe

inductive Ending where
  | written
  | empty
  | absent
deriving DecidableEq

structure Script (S : Type) where
  name : String
  steps : Config → Bool → S → Recipe
  ending : Config → Bool → S → Ending := fun _ _ _ => .written

namespace Script

variable {S : Type}

def renderer (script : Script S) : Renderer S := fun s => do
  let config ← Render.config
  let parameterized ← Render.isParameterized
  let text ← (script.steps config parameterized s).render
  match script.ending config parameterized s with
  | .written => return text
  | .empty => return text.map fun _ => ""
  | .absent => return none

def clause (script : Script S) : Clause S := ⟨script.name, script.renderer⟩

variable (script : Script S) (config : Config) (s : S)

def pieces : Template := (script.steps config true s).pieces config true

def fragment (earlier : Nat) : Option String :=
  if (script.steps config true s).complete config true then
    match script.ending config true s with
    | .written => some ((script.pieces config s).marked config.placeholder earlier)
    | .empty => some ""
    | .absent => none
  else none

theorem run_collecting (values : Array Value) :
    (script.renderer s).run ⟨config, some values⟩ =
      pure (script.fragment config s values.size,
        ⟨config, some (values ++ (script.pieces config s).values.toArray)⟩) := by
  have calls := Recipe.run_render_collecting config values (script.steps config true s)
  have mode : Render.isParameterized.run ⟨config, some values⟩ =
      pure (true, ⟨config, some values⟩) := rfl
  simp only [renderer, StateT.run_bind, Render.run_config, mode, calls, pure_bind]
  unfold fragment
  cases script.ending config true s <;>
    cases (script.steps config true s).complete config true <;> rfl

end Script

end SqlClauses
