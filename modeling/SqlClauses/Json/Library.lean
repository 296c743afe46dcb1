set_option autoImplicit false

namespace SqlClauses

-- What a type declares for its JSON text, with the names that it has in its declaration.
mutual

inductive Shape : Type → Type 1 where
  | char : Shape Char
  | option {α : Type} (inner : Shape α) : Shape (Option α)
  -- The text has these names in snake case.
  | choice {α : Type} (name : α → String) (all : List α) : Shape α
  -- A field that the text leaves out is taken from the standard record.
  | record {α : Type} (standard : α) (fields : Fields α) : Shape α

inductive Fields : Type → Type 1 where
  | nil {α : Type} : Fields α
  | cons {α β : Type} (name : String) (shape : Shape β) (get : α → β) (set : β → α → α)
      (rest : Fields α) : Fields α

end

class JsonLibrary where
  snakeCase : String → String
  print {α : Type} : Shape α → α → String
  parse {α : Type} : Shape α → String → Option α

end SqlClauses
