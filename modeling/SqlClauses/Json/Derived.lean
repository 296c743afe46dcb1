import SqlClauses.Json.Library
import SqlClauses.Json.Reader

set_option autoImplicit false

namespace SqlClauses

namespace Json

def snakeCase (name : String) : String :=
  match name.toList with
  | [] => ""
  | c :: rest =>
    String.ofList (c.toLower :: rest.flatMap fun d => if d.isUpper then ['_', d.toLower] else [d])

def member (name : String) (members : List (String × Json)) : Option (Option Json) :=
  match members.filter fun entry => entry.1 = name with
  | [] => some none
  | [entry] => some (some entry.2)
  | _ => none

def named (entry : Option String × Json) : Option (String × Json) :=
  entry.1.map fun name => (name, entry.2)

end Json

open Json (snakeCase)

mutual

def Shape.text : {α : Type} → Shape α → α → String
  | _, .char, c => Json.Text.quoted c.toString
  | _, .option _, none => "null"
  | _, .option inner, some a => inner.text a
  | _, .choice name _, a => Json.Text.quoted (snakeCase (name a))
  | _, .record _ fields, a => "\x7b" ++ ",".intercalate (fields.texts a) ++ "\x7d"

def Fields.texts : {α : Type} → Fields α → α → List String
  | _, .nil, _ => []
  | _, .cons name shape get _ rest, a =>
    (Json.Text.quoted name ++ ":" ++ shape.text (get a)) :: rest.texts a

end

mutual

def Shape.ofJson : {α : Type} → Shape α → Json → Option α
  | _, .char, .string (some text) =>
    match text.toList with
    | [c] => some c
    | _ => none
  | _, .char, _ => none
  | _, .option _, .null => some none
  | _, .option inner, json => (inner.ofJson json).map some
  | _, .choice name all, .string (some text) => all.find? fun a => snakeCase (name a) = text
  | _, .choice name all, .object [(some text, .null)] =>
    all.find? fun a => snakeCase (name a) = text
  | _, .choice _ _, _ => none
  | _, .record standard fields, .object members =>
    (members.mapM Json.named).bind fun members => fields.ofMembers members standard
  | _, .record standard fields, .array items => fields.ofItems items standard
  | _, .record _ _, _ => none

def Fields.ofMembers : {α : Type} → Fields α → List (String × Json) → α → Option α
  | _, .nil, _, a => some a
  | _, .cons name shape _ set rest, members, a => do
    match ← Json.member name members with
    | none => rest.ofMembers members a
    | some json => rest.ofMembers members (set (← shape.ofJson json) a)

def Fields.ofItems : {α : Type} → Fields α → List Json → α → Option α
  | _, .nil, [], a => some a
  | _, .nil, _ :: _, _ => none
  | _, .cons .., [], a => some a
  | _, .cons _ shape _ set rest, item :: items, a => do
    rest.ofItems items (set (← shape.ofJson item) a)

end

-- One such library, to run programs with.
instance Json.library : JsonLibrary where
  snakeCase := snakeCase
  print := Shape.text
  parse shape text := (Json.parse text).bind shape.ofJson

end SqlClauses
