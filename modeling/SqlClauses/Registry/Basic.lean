import SqlClauses.Context
import SqlClauses.Kind

set_option autoImplicit false

namespace SqlClauses

abbrev Renderer (S : Type) := S → Render (Option String)

structure Clause (S : Type) where
  name : String
  renderer : Renderer S

namespace Clause

variable {S T : Type}

def comap (view : T → S) (c : Clause S) : Clause T :=
  ⟨c.name, fun t => c.renderer (view t)⟩

@[simp] theorem name_comap (view : T → S) (c : Clause S) : (c.comap view).name = c.name := rfl

def position (name : String) (clauses : List (Clause S)) : Option Nat :=
  clauses.findIdx? fun c => c.name = name

end Clause

structure Registry (S : Type) where
  kind : Kind
  clauses : List (Clause S) := []

inductive RegistrationError where
  | unknownAnchor (kind : Kind) (name anchor : String)
  | selfAnchor (kind : Kind) (name : String)
deriving DecidableEq

def RegistrationError.message : RegistrationError → String
  | .unknownAnchor kind name anchor =>
    "cannot place clause '" ++ name ++ "' after unknown clause '" ++ anchor ++ "' in " ++
      kind.keyword ++ " statements"
  | .selfAnchor kind name =>
    "clause '" ++ name ++ "' cannot be anchored to itself in " ++ kind.keyword ++ " statements"

namespace Registry

variable {S T : Type}

def names (R : Registry S) : List String :=
  R.clauses.map Clause.name

def size (R : Registry S) : Nat := R.clauses.length

def isEmpty (R : Registry S) : Bool := R.clauses.isEmpty

def position (R : Registry S) (name : String) : Option Nat := Clause.position name R.clauses

def contains (R : Registry S) (name : String) : Bool := (R.position name).isSome

def define (R : Registry S) (c : Clause S) : Registry S :=
  match R.position c.name with
  | some i => { R with clauses := R.clauses.modify i fun d => { d with renderer := c.renderer } }
  | none => { R with clauses := R.clauses ++ [c] }

def remove (R : Registry S) (name : String) : Registry S :=
  match R.position name with
  | some i => { R with clauses := R.clauses.eraseIdx i }
  | none => R

def insertBehind (R : Registry S) (anchor : String) (c : Clause S) : Registry S :=
  let place := ((R.position anchor).map (· + 1)).getD R.size
  { R with clauses := R.clauses.insertIdx place c }

-- The registry is changed in place, so what a refused call has changed by then would stay.
def register (anchor : String) (c : Clause S) :
    EStateM RegistrationError (Registry S) Unit := do
  let R ← get
  if c.name = anchor then throw (.selfAnchor R.kind c.name)
  if !R.contains anchor then throw (.unknownAnchor R.kind c.name anchor)
  modify fun R => R.remove c.name
  modify fun R => R.insertBehind anchor c

def afterwards (R : Registry S) (anchor : String) (c : Clause S) : Registry S :=
  match register anchor c R with
  | .ok _ next => next
  | .error _ next => next

def insertAfter (R : Registry S) (anchor : String) (c : Clause S) :
    Except RegistrationError (Registry S) :=
  match register anchor c R with
  | .ok _ next => .ok next
  | .error e _ => .error e

def comap (view : T → S) (R : Registry S) : Registry T :=
  { kind := R.kind, clauses := R.clauses.map (Clause.comap view) }

@[simp] theorem names_comap (view : T → S) (R : Registry S) : (R.comap view).names = R.names := by
  simp [names, comap, Function.comp_def]

end Registry

end SqlClauses
