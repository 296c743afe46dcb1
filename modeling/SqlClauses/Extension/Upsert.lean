import SqlClauses.Json.Basic
import SqlClauses.Registry.Basic

set_option autoImplicit false

namespace SqlClauses

inductive UpdateColumn where
  | values (column : String)
  | assign (column expr : String)
  -- Stands for an entry of no usable form.
  | skip
deriving DecidableEq

namespace UpdateColumn

def text (config : Config) : UpdateColumn → Option String
  | .values column =>
    if column = "" then none
    else some (config.column column ++ " = VALUES(" ++ config.column column ++ ")")
  | .assign column expr => some (config.column column ++ " = " ++ expr)
  | .skip => none

def ofPairs : List (String × String) → UpdateColumn
  | [(column, expr)] => .assign column expr
  | _ => .skip

def ofEntries (entries : List (String × String)) : UpdateColumn :=
  ofPairs (Json.lastOfEqual entries)

def pairOfJson : Option String × Json → Option (String × String)
  | (some column, .string (some expr)) => some (column, expr)
  | (some column, .number (some expr)) => some (column, expr)
  | _ => none

def ofJson : Json → UpdateColumn
  | .string (some column) => .values column
  | .object members =>
    let entries := Json.lastOfEqual members
    -- Entries count here whatever they hold.
    if entries.length = 1 then ofPairs (entries.filterMap pairOfJson) else .skip
  | _ => .skip

def listOfJson : Json → Option (List UpdateColumn)
  | .array items => some (items.map ofJson)
  | _ => none

end UpdateColumn

class HasUpsert (S : Type) where
  updates : S → Option (List UpdateColumn)
  setUpdates : Option (List UpdateColumn) → S → S

def Clause.upsert {S : Type} [HasUpsert S] : Clause S where
  name := "on_duplicate_key_update"
  renderer s := do
    match HasUpsert.updates s with
    | none => return none
    | some entries =>
      match entries.filterMap (UpdateColumn.text (← Render.config)) with
      | [] => return none
      | assignments =>
        return some ("ON DUPLICATE KEY UPDATE " ++ ", ".intercalate assignments)

end SqlClauses
