import SqlClauses.Mysql.Grammar

set_option autoImplicit false

namespace SqlClauses.Mysql

structure Session where
  grammars : String → Option Grammar := fun _ => none
  builders : String → Option ((k : Kind) × Builder k) := fun _ => none

namespace Session

inductive Op where
  | grammar (name : String) (config : Option Config)
  | copyGrammar (name source : String)
  | register (grammar : String) (k : Kind) (anchor : String) (c : Clause (Draft k))
  | build (name grammar table : String) (columns : List String) (k : Kind)
  | copyBuilder (name source : String)
  | edit (builder : String) (k : Kind) (e : Draft.Edit k)

inductive Error where
  | unknownGrammar (name : String)
  | unknownBuilder (name : String)
  | otherKind (builder : String)
  | registration (e : RegistrationError)

def put {α : Type} (name : String) (x : α) (names : String → Option α) : String → Option α :=
  fun other => if other = name then some x else names other

@[simp] theorem put_self {α : Type} (name : String) (x : α) (names : String → Option α) :
    put name x names name = some x := by
  simp [put]

theorem put_of_ne {α : Type} {name other : String} (x : α) (names : String → Option α)
    (h : other ≠ name) : put name x names other = names other := by
  simp [put, h]

def grammar (s : Session) (name : String) : Except Error Grammar :=
  match s.grammars name with
  | none => .error (.unknownGrammar name)
  | some g => .ok g

def builder (s : Session) (name : String) : Except Error ((k : Kind) × Builder k) :=
  match s.builders name with
  | none => .error (.unknownBuilder name)
  | some b => .ok b

def putGrammar (s : Session) (name : String) (g : Grammar) : Session :=
  { s with grammars := put name g s.grammars }

def putBuilder (s : Session) (name : String) (b : (k : Kind) × Builder k) : Session :=
  { s with builders := put name b s.builders }

def step (s : Session) : Op → Except Error Session
  | .grammar name config =>
    .ok (s.putGrammar name ((config.map Grammar.withConfig).getD .standard))
  | .copyGrammar name source => return s.putGrammar name (← s.grammar source)
  | .register name k anchor c => do
    let g ← s.grammar name
    match g.register k anchor c with
    | .error e => throw (.registration e)
    | .ok extended => return s.putGrammar name extended
  | .build name g table columns k =>
    return s.putBuilder name ⟨k, (← s.grammar g).build table columns k⟩
  | .copyBuilder name source => return s.putBuilder name (← s.builder source)
  | .edit name k e => do
    let ⟨kind, b⟩ ← s.builder name
    if h : kind = k then return s.putBuilder name ⟨k, (h ▸ b).edit e⟩
    else throw (.otherKind name)

def stepOrStay (s : Session) (op : Op) : Session :=
  match s.step op with
  | .ok next => next
  | .error _ => s

def run (s : Session) (ops : List Op) : Session := ops.foldl stepOrStay s

end Session

end SqlClauses.Mysql
