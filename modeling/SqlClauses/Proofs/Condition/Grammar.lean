import SqlClauses.Proofs.Condition.Token

set_option autoImplicit false

namespace SqlClauses.Syntax

inductive Operand where
  | reference (path : List (List Char))
  | number (numeral : List Char)
  | string (text : List Char)
  | bytes (digits : List Char)
  | null
  | true
  | false
  | value (v : Value)
  | negative (inner : Operand)

inductive Atom where
  | operand (x : Operand)
  | compare (x : Operand) (op : Comparison) (y : Operand)
  | isNull (x : Operand) (negated : Bool)
  | between (x : Operand) (negated : Bool) (low high : Operand)
  | among (x : Operand) (negated : Bool) (items : List Operand)

inductive Connective where
  | and
  | or
deriving DecidableEq

def Connective.keyword : Connective → Keyword
  | .and => .and
  | .or => .or

inductive Condition (α : Type) where
  | atom (a : α)
  | chain (c : Connective) (left right : Condition α)
  | not (inner : Condition α)

def Condition.map {α β : Type} (f : α → β) : Condition α → Condition β
  | .atom a => .atom (f a)
  | .chain c left right => .chain c (left.map f) (right.map f)
  | .not inner => .not (inner.map f)

def furtherParts : List Token → List (List Char) × List Token
  | .dot :: .name part :: rest =>
    let (parts, later) := furtherParts rest
    (part :: parts, later)
  | ts => ([], ts)

def unsignedOperand : List Token → Option (Operand × List Token)
  | .name part :: rest =>
    let (parts, later) := furtherParts rest
    some (.reference (part :: parts), later)
  | .number numeral :: rest => some (.number numeral, rest)
  | .string text :: rest => some (.string text, rest)
  | .bytes digits :: rest => some (.bytes digits, rest)
  | .keyword .null :: rest => some (.null, rest)
  | .keyword .true :: rest => some (.true, rest)
  | .keyword .false :: rest => some (.false, rest)
  | .value v :: rest => some (.value v, rest)
  | _ => none

def operand : List Token → Option (Operand × List Token)
  | .minus :: rest => (unsignedOperand rest).map fun (x, later) => (.negative x, later)
  | ts => unsignedOperand ts

def operands : Nat → List Token → Option (List Operand × List Token)
  | 0, _ => none
  | fuel + 1, ts => do
    let (x, rest) ← operand ts
    match rest with
    | .comma :: rest => do
      let (items, later) ← operands fuel rest
      some (x :: items, later)
    | .closing :: later => some ([x], later)
    | _ => none

def negatable (x : Operand) (negated : Bool) : List Token → Option (Atom × List Token)
  | .keyword .like :: rest => do
    let (y, later) ← operand rest
    some (.compare x (if negated then .notLike else .like) y, later)
  | .keyword .between :: rest => do
    let (low, rest) ← operand rest
    match rest with
    | .keyword .and :: rest => do
      let (high, later) ← operand rest
      some (.between x negated low high, later)
    | _ => none
  | .keyword .among :: .opening :: rest => do
    let (items, later) ← operands rest.length rest
    some (.among x negated items, later)
  | _ => none

def predicateOf (x : Operand) : List Token → Option (Atom × List Token)
  | .operator op :: rest => do
    let (y, later) ← operand rest
    some (.compare x op y, later)
  | .keyword .is :: .keyword .null :: later => some (.isNull x false, later)
  | .keyword .is :: .keyword .not :: .keyword .null :: later => some (.isNull x true, later)
  | .keyword .not :: rest => negatable x true rest
  | .keyword .like :: rest => negatable x false (.keyword .like :: rest)
  | .keyword .between :: rest => negatable x false (.keyword .between :: rest)
  | .keyword .among :: rest => negatable x false (.keyword .among :: rest)
  | later => some (.operand x, later)

def predicate (ts : List Token) : Option (Atom × List Token) := do
  let (x, rest) ← operand ts
  predicateOf x rest

inductive Level where
  | chain (c : Connective)
  | negation

def Connective.link : Connective → Level
  | .or => .chain .and
  | .and => .negation

def parse : Nat → Level → List Token → Option (Condition Atom × List Token)
  | 0, _, _ => none
  | fuel + 1, .chain c, ts => do
    let (left, rest) ← parse fuel c.link ts
    -- What follows the connective is again a chain of it.
    match rest with
    | .keyword k :: later =>
      if k = c.keyword then do
        let (right, later) ← parse fuel (.chain c) later
        some (.chain c left right, later)
      else some (left, rest)
    | _ => some (left, rest)
  | fuel + 1, .negation, .keyword .not :: rest => do
    let (inner, later) ← parse fuel .negation rest
    some (.not inner, later)
  | fuel + 1, .negation, .opening :: rest => do
    let (inner, rest) ← parse fuel (.chain .or) rest
    match rest with
    | .closing :: later => some (inner, later)
    | _ => none
  | _ + 1, .negation, ts => do
    let (a, later) ← predicate ts
    some (.atom a, later)

def condition (ts : List Token) : Option (Condition Atom) :=
  -- At most three steps lead to a token: through both chains and to the link.
  match parse (3 * ts.length + 2) (.chain .or) ts with
  | some (c, []) => some c
  | _ => none

end SqlClauses.Syntax
