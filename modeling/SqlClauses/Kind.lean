set_option autoImplicit false

namespace SqlClauses

inductive Kind where
  | select
  | insert
  | update
  | delete
deriving DecidableEq

namespace Kind

def all : List Kind := [.select, .insert, .update, .delete]

def keyword : Kind → String
  | .select => "SELECT"
  | .insert => "INSERT"
  | .update => "UPDATE"
  | .delete => "DELETE"

instance : ToString Kind := ⟨keyword⟩

def name : Kind → String
  | .select => "Select"
  | .insert => "Insert"
  | .update => "Update"
  | .delete => "Delete"

end Kind

end SqlClauses
