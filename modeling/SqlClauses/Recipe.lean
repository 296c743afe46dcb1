import SqlClauses.Expr.Render
import SqlClauses.Registry.Basic

set_option autoImplicit false

namespace SqlClauses

inductive Recipe.Step where
  | text (s : String)
  | value (v : Value)
  | column (table : Option String) (name : String)
  | columns (names : List String)
  | expr (e : Expr)
  | byMode (inline parameterized : String)
  | quote

abbrev Recipe := List Recipe.Step

namespace Recipe

def Step.render : Step → OptionT Render String
  | .text s => pure s
  | .value v => Render.value v
  | .column table name => Render.qualifiedColumn table name
  | .columns names => OptionT.mk (Render.columns names)
  | .expr e => Render.expr e
  | .byMode inline parameterized =>
    return if (← Render.isParameterized) then parameterized else inline
  | .quote => return match (← Render.config).quote with
    | none => ""
    | some q => q.toString

-- The steps from left to right, up to the first that has no text. Without that, the fragment is
-- absent, but the parameters of the steps before it stay.
def render (recipe : Recipe) : Render (Option String) :=
  OptionT.run (String.join <$> recipe.mapM Step.render)

end Recipe

end SqlClauses
