import SqlClauses.Json.Library
import SqlClauses.Proofs.Json.Grammar

set_option autoImplicit false

namespace SqlClauses

open Json

def Json.WritesText (text w : List Char) : Prop := ∃ body, Spells body text ∧ w = inQuotes body

theorem Json.WritesText.scalar {text w : List Char} (writes : WritesText text w) : IsScalar w := by
  obtain ⟨body, ⟨gs, written, _⟩, rfl⟩ := writes
  exact .string written

def Json.valuesOf (name : String) (members : List Member) : List (List Char) :=
  (members.filter fun m => m.1 = name).map Prod.snd

namespace Fields

def names : {α : Type} → Fields α → List String
  | _, .nil => []
  | _, .cons name _ _ _ rest => name :: rest.names

variable [JsonLibrary]

def members : {α : Type} → Fields α → α → List Member
  | _, .nil, _ => []
  | _, .cons name shape get _ rest, a =>
    (name, (JsonLibrary.print shape (get a)).toList) :: rest.members a

-- Members are found by name, and those that no field has the name of are not looked at. A field
-- without a member keeps the value it has, and one with two makes the text unreadable.
def fill (members : List Member) : {α : Type} → Fields α → α → Option α
  | _, .nil, a => some a
  | _, .cons name shape _ set rest, a =>
    match valuesOf name members with
    | [] => rest.fill members a
    | [w] => do rest.fill members (set (← JsonLibrary.parse shape (String.ofList w)) a)
    | _ => none

end Fields

namespace JsonLibrary

-- What the library documents. Objects are asked for with scalar values alone.
structure Documented [JsonLibrary] : Prop where
  snakeCase_word (c : Char) (rest : List Char) : c.isUpper = true →
    (∀ d ∈ rest, d.isLower = true) →
    snakeCase (String.ofList (c :: rest)) = String.ofList (c.toLower :: rest)
  print_char (c : Char) : WritesText [c] (print .char c).toList
  parse_char (c : Char) (text : String) : WritesText [c] text.toList → parse .char text = some c
  print_none {α : Type} (inner : Shape α) : print (.option inner) none = "null"
  print_some {α : Type} (inner : Shape α) (a : α) :
    print (.option inner) (some a) = print inner a
  parse_null {α : Type} (inner : Shape α) : parse (.option inner) "null" = some none
  parse_other {α : Type} (inner : Shape α) (text : String) : IsScalar text.toList →
    text ≠ "null" → parse (.option inner) text = (parse inner text).map some
  print_choice {α : Type} (name : α → String) (all : List α) (a : α) :
    WritesText (snakeCase (name a)).toList (print (.choice name all) a).toList
  parse_choice {α : Type} (name : α → String) (all : List α) (a : α) (text : String) : a ∈ all →
    (∀ b ∈ all, snakeCase (name b) = snakeCase (name a) → b = a) →
    WritesText (snakeCase (name a)).toList text.toList → parse (.choice name all) text = some a
  print_record {α : Type} (standard : α) (fields : Fields α) (a : α) :
    (∀ m ∈ fields.members a, IsScalar m.2) →
    ObjectText (fields.members a) (print (.record standard fields) a).toList
  parse_record {α : Type} (standard : α) (fields : Fields α) (members : List Member)
    (text : String) : fields.names.Nodup → ObjectText members text.toList →
    parse (.record standard fields) text = fields.fill members standard

end JsonLibrary

end SqlClauses
