import SqlClauses.Proofs.Registry.Runs
import SqlClauses.Registry.Render

set_option autoImplicit false

namespace SqlClauses

variable {S T U : Type}

namespace Clause

theorem map_define (view : T → S) (c : Clause S) (clauses : List (Clause S)) :
    (c.define clauses).map (comap view) = (c.comap view).define (clauses.map (comap view)) := by
  induction clauses with
  | nil => rfl
  | cons d rest ih => by_cases same : d.name = c.name <;> simp [define, same, ih]

theorem position_map (view : T → S) (name : String) (clauses : List (Clause S)) :
    position name (clauses.map (comap view)) = position name clauses := by
  rw [position, List.findIdx?_map]
  rfl

end Clause

namespace Registry

theorem comap_id (R : Registry S) : R.comap id = R := by
  have same : R.clauses.map (Clause.comap id) = R.clauses := List.map_id R.clauses
  rw [comap, same]

theorem comap_comap (view : T → S) (outer : U → T) (R : Registry S) :
    (R.comap view).comap outer = R.comap (view ∘ outer) := by
  simp [comap, Clause.comap, Function.comp_def]

theorem render_comap (view : T → S) (R : Registry S) (t : T) :
    (R.comap view).render t = R.render (view t) := by
  rw [render, comap, List.mapM_map]
  rfl

theorem position_comap (view : T → S) (R : Registry S) (name : String) :
    (R.comap view).position name = R.position name :=
  Clause.position_map view name R.clauses

theorem contains_comap (view : T → S) (R : Registry S) (name : String) :
    (R.comap view).contains name = R.contains name := by
  rw [contains, position_comap, contains]

theorem comap_define (view : T → S) (R : Registry S) (c : Clause S) :
    (R.define c).comap view = (R.comap view).define (c.comap view) := by
  rw [define_eq, define_eq, comap, Clause.map_define]
  rfl

theorem comap_remove (view : T → S) (R : Registry S) (name : String) :
    (R.remove name).comap view = (R.comap view).remove name := by
  rw [remove, remove, position_comap]
  cases R.position name with
  | none => rfl
  | some i => simp [comap, List.eraseIdx_map]

theorem comap_insertBehind (view : T → S) (R : Registry S) (anchor : String) (c : Clause S) :
    (R.insertBehind anchor c).comap view = (R.comap view).insertBehind anchor (c.comap view) := by
  have size : (R.comap view).size = R.size := List.length_map _
  rw [insertBehind, insertBehind, position_comap, size]
  simp [comap, List.map_insertIdx]

theorem comap_insertAfter (view : T → S) (R : Registry S) (anchor : String) (c : Clause S) :
    (R.insertAfter anchor c).map (comap view) =
      (R.comap view).insertAfter anchor (c.comap view) := by
  simp only [insertAfter_eq, Clause.name_comap, contains_comap, ← comap_remove,
    ← comap_insertBehind]
  split
  · rfl
  · split <;> rfl

def Call.comap (view : T → S) : Call S → Call T
  | .define c => .define (c.comap view)
  | .insertAfter anchor c => .insertAfter anchor (c.comap view)

def answer (R : Registry S) : Call S → Except RegistrationError Unit
  | .define _ => .ok ()
  | .insertAfter anchor c => (R.insertAfter anchor c).map fun _ => ()

def answers : Registry S → List (Call S) → List (Except RegistrationError Unit)
  | _, [] => []
  | R, call :: rest => R.answer call :: answers (R.step call) rest

theorem comap_step (view : T → S) (R : Registry S) (call : Call S) :
    (R.step call).comap view = (R.comap view).step (call.comap view) := by
  cases call with
  | define c => exact comap_define view R c
  | insertAfter anchor c =>
    have lifted := comap_insertAfter view R anchor c
    cases answer : R.insertAfter anchor c with
    | error e =>
      rw [answer] at lifted
      rw [step_of_error answer]
      exact (step_of_error lifted.symm).symm
    | ok next =>
      rw [answer] at lifted
      simp only [step, Call.comap, afterwards_of_ok answer, afterwards_of_ok lifted.symm]

theorem answer_comap (view : T → S) (R : Registry S) (call : Call S) :
    (R.comap view).answer (call.comap view) = R.answer call := by
  cases call with
  | define c => rfl
  | insertAfter anchor c =>
    have lifted := comap_insertAfter view R anchor c
    simp only [answer, Call.comap, ← lifted]
    cases R.insertAfter anchor c <;> rfl

inductive Course : Type → Type → Type 1 where
  | done {S : Type} : Course S S
  | register {S T : Type} (call : Call S) (rest : Course S T) : Course S T
  | lift {S T U : Type} (view : U → S) (rest : Course U T) : Course S T

namespace Course

def run : {S T : Type} → Course S T → Registry S → Registry T
  | _, _, .done, R => R
  | _, _, .register call rest, R => rest.run (R.step call)
  | _, _, .lift view rest, R => rest.run (R.comap view)

def answers : {S T : Type} → Course S T → Registry S → List (Except RegistrationError Unit)
  | _, _, .done, _ => []
  | _, _, .register call rest, R => R.answer call :: rest.answers (R.step call)
  | _, _, .lift view rest, R => rest.answers (R.comap view)

def view : {S T : Type} → Course S T → T → S
  | _, _, .done => id
  | _, _, .register _ rest => rest.view
  | _, _, .lift view rest => view ∘ rest.view

def calls : {S T : Type} → Course S T → List (Call T)
  | _, _, .done => []
  | _, _, .register call rest => call.comap rest.view :: rest.calls
  | _, _, .lift _ rest => rest.calls

theorem run_eq (course : Course S T) (R : Registry S) :
    course.run R = (R.comap course.view).run course.calls := by
  induction course with
  | done => exact R.comap_id.symm
  | register call rest ih =>
    rw [run, ih, comap_step]
    rfl
  | lift view rest ih =>
    rw [run, ih, comap_comap]
    rfl

theorem answers_eq (course : Course S T) (R : Registry S) :
    course.answers R = (R.comap course.view).answers course.calls := by
  induction course with
  | done => rfl
  | register call rest ih =>
    rw [answers, ih, comap_step, ← answer_comap rest.view]
    rfl
  | lift view rest ih =>
    rw [answers, ih, comap_comap]
    rfl

end Course

structure LiftsBy (view : T → S) (R : Registry S) : Prop where
  run_render : ∀ (t : T) (cx : Context),
    ((R.comap view).render t).run cx = (R.render (view t)).run cx
  names_eq : (R.comap view).names = R.names
  size_eq : (R.comap view).size = R.size
  kind_eq : (R.comap view).kind = R.kind
  contains_eq : ∀ name, (R.comap view).contains name = R.contains name
  define_eq : ∀ c : Clause S, (R.define c).comap view = (R.comap view).define (c.comap view)
  insertAfter_eq : ∀ (anchor : String) (c : Clause S),
    (R.insertAfter anchor c).map (comap view) = (R.comap view).insertAfter anchor (c.comap view)

theorem lifting_commutes_with_registration {S : Type} (R : Registry S) :
    (∀ {T : Type} (view : T → S), R.LiftsBy view) ∧
    ∀ {T : Type} (course : Course S T),
      course.run R = (R.comap course.view).run course.calls ∧
        course.answers R = (R.comap course.view).answers course.calls := by
  constructor
  · intro T view
    constructor
    · intro t cx
      rw [render_comap]
    · exact names_comap view R
    · exact List.length_map _
    · rfl
    · exact contains_comap view R
    · exact comap_define view R
    · exact comap_insertAfter view R
  · intro T course
    exact ⟨course.run_eq R, course.answers_eq R⟩

end Registry

end SqlClauses
