import SqlClauses.Config.Basic
import SqlClauses.Value

set_option autoImplicit false

namespace SqlClauses

-- `collected` is absent in a run that writes values as literals.
structure Context where
  config : Config
  collected : Option (Array Value)

namespace Context

def inline (config : Config) : Context := ⟨config, none⟩

def parameterized (config : Config) : Context := ⟨config, some #[]⟩

@[simp] theorem config_inline (config : Config) : (inline config).config = config := rfl

@[simp] theorem config_parameterized (config : Config) :
    (parameterized config).config = config := rfl

def isParameterized (cx : Context) : Bool := cx.collected.isSome

def params (cx : Context) : List Value := (cx.collected.getD #[]).toList

def value (v : Value) : Context → String × Context
  | ⟨config, none⟩ => (v.literal, ⟨config, none⟩)
  | ⟨config, some values⟩ =>
    let position := values.size + 1
    (config.placeholder.mark position, ⟨config, some (values.push v)⟩)

@[simp] theorem value_inline (v : Value) (config : Config) :
    value v (inline config) = (v.literal, inline config) := rfl

@[simp] theorem value_collecting (v : Value) (config : Config) (values : Array Value) :
    value v ⟨config, some values⟩ =
      (config.placeholder.mark (values.size + 1), ⟨config, some (values.push v)⟩) := rfl

@[simp] theorem config_value (v : Value) (cx : Context) : (value v cx).2.config = cx.config := by
  rcases cx with ⟨config, none | values⟩ <;> rfl

end Context

abbrev Render := StateM Context

namespace Render

def config : Render Config := return (← get).config

def isParameterized : Render Bool := return (← get).isParameterized

def value (v : Value) : Render String := modifyGet (Context.value v)

def runFrom {α : Type} (r : Render α) (cx : Context) : α × Context := Id.run (r.run cx)

def column (name : String) : Render String := return (← config).column name

def qualifiedColumn (table : Option String) (name : String) : Render String :=
  return (← config).qualifiedColumn table name

def columns (names : List String) : Render (Option String) := return (← config).columns names

@[simp] theorem run_config (cx : Context) : config.run cx = pure (cx.config, cx) := rfl

@[simp] theorem run_value (v : Value) (cx : Context) :
    (value v).run cx = pure (Context.value v cx) := rfl

@[simp] theorem run_column (name : String) (cx : Context) :
    (column name).run cx = pure (cx.config.column name, cx) := rfl

@[simp] theorem run_qualifiedColumn (table : Option String) (name : String) (cx : Context) :
    (qualifiedColumn table name).run cx = pure (cx.config.qualifiedColumn table name, cx) := rfl

@[simp] theorem run_columns (names : List String) (cx : Context) :
    (columns names).run cx = pure (cx.config.columns names, cx) := rfl

end Render

end SqlClauses
