import SqlClauses.Reference.Basic

set_option autoImplicit false

namespace SqlClauses

inductive Placeholder where
  | question
  | numbered
deriving DecidableEq, Inhabited

def Placeholder.mark : Placeholder → Nat → String
  | .question, _ => "?"
  | .numbered, position => "$" ++ toString position

structure Config where
  quote : Option Char := some '"'
  placeholder : Placeholder := .question
deriving DecidableEq

instance : Inhabited Config := ⟨{}⟩

namespace Config

def standard : Config := {}

def column (config : Config) (name : String) : String :=
  Reference.column config.quote none name

def qualifiedColumn (config : Config) (table : Option String) (name : String) : String :=
  Reference.column config.quote table name

def columns (config : Config) (names : List String) : Option String :=
  Reference.columns config.quote names

end Config

end SqlClauses
