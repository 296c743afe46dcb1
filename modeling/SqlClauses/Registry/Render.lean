import SqlClauses.Registry.Basic

set_option autoImplicit false

namespace SqlClauses

structure Prepared where
  text : String
  params : List Value

namespace Registry

variable {S : Type}

def assemble (fragments : List (Option String)) : String :=
  " ".intercalate ((fragments.filterMap id).filter (· ≠ ""))

def render (R : Registry S) (s : S) : Render String :=
  assemble <$> R.clauses.mapM fun c => c.renderer s

def toSql (R : Registry S) (config : Config) (s : S) : String :=
  ((R.render s).runFrom (Context.inline config)).1

def prepare (R : Registry S) (config : Config) (s : S) : Prepared :=
  let (text, cx) := (R.render s).runFrom (Context.parameterized config)
  ⟨text, cx.params⟩

end Registry

end SqlClauses
