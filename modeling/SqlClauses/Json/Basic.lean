set_option autoImplicit false

namespace SqlClauses

-- Objects keep repeated keys. A number is known by the text that it is given, which it lacks beyond
-- the range of doubles, and a string is absent when its escapes hold half of a surrogate pair.
inductive Json where
  | null
  | bool (b : Bool)
  | number (text : Option String)
  | string (text : Option String)
  | array (items : List Json)
  | object (members : List (Option String × Json))

namespace Json

-- The entries of a list of pairs as a map has them: of equal keys the last one counts.
def lastOfEqual {κ ν : Type} [DecidableEq κ] : List (κ × ν) → List (κ × ν)
  | [] => []
  | (key, value) :: rest =>
    if key ∈ rest.map Prod.fst then lastOfEqual rest else (key, value) :: lastOfEqual rest

end Json

end SqlClauses
