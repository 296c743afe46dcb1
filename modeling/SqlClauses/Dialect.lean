import SqlClauses.Config.Basic
import SqlClauses.Quoted

set_option autoImplicit false

namespace SqlClauses

structure Dialect where
  name : String
  quote : Char := '"'
  placeholder : Placeholder := .question
deriving DecidableEq

namespace Dialect

def generic : Dialect := { name := "generic" }

def mysql : Dialect := { name := "mysql", quote := '\x60' }

def quoteIdentifier (d : Dialect) (identifier : String) : String :=
  Quoted.encode d.quote identifier

def config (d : Dialect) : Config :=
  { quote := some d.quote, placeholder := d.placeholder }

@[simp] theorem config_generic : generic.config = Config.standard := rfl

end Dialect

end SqlClauses
