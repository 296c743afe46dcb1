import Mathlib.Data.List.Flatten
import SqlClauses.Proofs.Script.Pieces
import SqlClauses.Proofs.Template.Clauses

set_option autoImplicit false

namespace SqlClauses

namespace Template

theorem mark_ne_empty (style : Placeholder) (position : Nat) : style.mark position ≠ "" := by
  cases style <;> simp [Placeholder.mark]

def isBlank : Template → Bool
  | [] => true
  | .text s :: rest => s.isEmpty && isBlank rest
  | .value _ :: _ => false

theorem marked_eq_empty_iff (style : Placeholder) (earlier : Nat) (t : Template) :
    t.marked style earlier = "" ↔ t.isBlank = true := by
  induction t with
  | nil => simp [isBlank]
  | cons p rest ih =>
    cases p with
    | text s => simp [isBlank, ih]
    | value v => simp [isBlank, mark_ne_empty]

def placeholders (style : Placeholder) : Nat → Template → List String
  | _, [] => []
  | earlier, .text _ :: rest => placeholders style earlier rest
  | earlier, .value _ :: rest => style.mark (earlier + 1) :: placeholders style (earlier + 1) rest

theorem placeholders_eq (style : Placeholder) (earlier : Nat) (t : Template) :
    t.placeholders style earlier = (List.range' (earlier + 1) t.values.length).map style.mark := by
  induction t generalizing earlier with
  | nil => rfl
  | cons p rest ih => cases p <;> simp [placeholders, values, ih, List.range'_succ]

end Template

theorem flatMap_filter_eq_iff {α β : Type} (f : α → List β) (keep : α → Bool) (xs : List α) :
    xs.flatMap f = (xs.filter keep).flatMap f ↔ ∀ x ∈ xs, keep x = false → f x = [] := by
  induction xs with
  | nil => simp
  | cons x rest ih =>
    cases kept : keep x with
    | true => simp [kept, ih]
    | false =>
      have shorter : ((rest.filter keep).flatMap f).length ≤ (rest.flatMap f).length :=
        (List.filter_sublist.flatMap f).length_le
      simp only [List.flatMap_cons, List.filter_cons, kept, Bool.false_eq_true, if_false,
        List.forall_mem_cons, forall_const, ← ih]
      constructor
      · intro same
        have lengths := congrArg List.length same
        rw [List.length_append] at lengths
        have silent : f x = [] := List.eq_nil_of_length_eq_zero (by omega)
        exact ⟨silent, by simpa [silent] using same⟩
      · rintro ⟨silent, same⟩
        simpa [silent] using same

namespace Recipe

def ofTemplate : Template → Recipe :=
  List.map fun
    | .text s => .text s
    | .value v => .value v

theorem mapM_ofTemplate (t : Template) :
    (ofTemplate t).mapM Step.render = OptionT.lift (t.mapM Render.piece) := by
  induction t with
  | nil => rfl
  | cons p rest ih =>
    change (List.map _ rest).mapM Step.render = _ at ih
    cases p <;> simp [ofTemplate, List.mapM_cons, Step.render, Render.piece, ih] <;> rfl

theorem render_ofTemplate (t : Template) : (ofTemplate t).render = some <$> Render.write t := by
  simp [render, mapM_ofTemplate, Render.write]

end Recipe

namespace Script

variable {S : Type}

-- The clauses of all statements are scripts of this kind.
def ofTemplate (name : String) (template : Config → S → Option Template) : Script S where
  name := name
  steps config _ s := Recipe.ofTemplate ((template config s).getD [])
  ending config _ s := if (template config s).isSome then .written else .absent

theorem clause_ofTemplate (name : String) (template : Config → S → Option Template) :
    (ofTemplate name template).clause = Clause.ofTemplate name template := by
  refine Clause.eq_ofTemplate fun s cx => ?_
  have mode : Render.isParameterized.run cx = pure (cx.isParameterized, cx) := rfl
  cases made : template cx.config s <;>
    simp [clause, renderer, ofTemplate, Recipe.render_ofTemplate, Render.fragment, made, mode]

variable (config : Config) (s : S)

def keeps (script : Script S) : Bool :=
  (script.steps config true s).complete config true &&
    script.ending config true s == .written && !(script.pieces config s).isBlank

theorem filter_fragment (script : Script S) (earlier : Nat) :
    (script.fragment config s earlier).filter (· ≠ "") =
      if script.keeps config s then
        some ((script.pieces config s).marked config.placeholder earlier)
      else none := by
  have blank := Template.marked_eq_empty_iff config.placeholder earlier (script.pieces config s)
  unfold fragment keeps
  cases script.ending config true s <;>
    cases (script.steps config true s).complete config true <;>
      cases nothing : (script.pieces config s).isBlank <;> simp [blank, nothing]

def fragments : Nat → List (Script S) → List (Option String)
  | _, [] => []
  | earlier, script :: rest =>
    script.fragment config s earlier ::
      fragments (earlier + (script.pieces config s).values.length) rest

theorem run_clauses_collecting (scripts : List (Script S)) (values : Array Value) :
    ((scripts.map clause).mapM fun (c : Clause S) => c.renderer s).run ⟨config, some values⟩ =
      pure (fragments config s values.size scripts,
        ⟨config, some (values ++
          (scripts.flatMap fun script => (script.pieces config s).values).toArray)⟩) := by
  induction scripts generalizing values with
  | nil => simp [fragments]
  | cons script rest ih =>
    rw [List.map_cons, List.mapM_cons, StateT.run_bind]
    change (script.renderer s).run ⟨config, some values⟩ >>= _ = _
    simp [run_collecting, ih, fragments, -List.mapM_map]

def keptPieces (scripts : List (Script S)) : List Template :=
  (scripts.filter fun script => script.keeps config s).map fun script => script.pieces config s

def DroppedAreSilent (scripts : List (Script S)) : Prop :=
  ∀ script ∈ scripts, script.keeps config s = false → (script.pieces config s).values = []

theorem kept_fragments (scripts : List (Script S)) (earlier : Nat)
    (silent : DroppedAreSilent config s scripts) :
    ((fragments config s earlier scripts).filterMap id).filter (· ≠ "") =
      Template.markedEach config.placeholder earlier (keptPieces config s scripts) := by
  induction scripts generalizing earlier with
  | nil => rfl
  | cons script rest ih =>
    have later := ih (earlier + (script.pieces config s).values.length)
      fun other member => silent other (List.mem_cons_of_mem _ member)
    have here := filter_fragment config s script earlier
    rw [fragments, List.filter_filterMap, List.filterMap_cons]
    rw [List.filter_filterMap] at later
    cases kept : script.keeps config s with
    | true =>
      rw [kept, if_pos rfl] at here
      rw [id, here, later]
      simp [keptPieces, kept, Template.markedEach]
    | false =>
      have quiet := silent script (by simp) kept
      simp only [kept, Bool.false_eq_true, if_false] at here
      rw [id, here, later]
      simp [keptPieces, kept, quiet]

end Script

namespace Registry

variable {S : Type} (kind : Kind) (scripts : List (Script S)) (config : Config) (s : S)

def ofScripts : Registry S := ⟨kind, scripts.map Script.clause⟩

theorem prepare_ofScripts :
    (ofScripts kind scripts).prepare config s =
      ⟨assemble (Script.fragments config s 0 scripts),
        scripts.flatMap fun script => (script.pieces config s).values⟩ := by
  have run := Script.run_clauses_collecting config s scripts #[]
  simp [prepare, ofScripts, Registry.render, Render.runFrom, Context.parameterized, run,
    Context.params, -List.mapM_map]

theorem prepare_of_silent (silent : Script.DroppedAreSilent config s scripts) :
    (ofScripts kind scripts).prepare config s =
      ⟨(Template.join " " (Script.keptPieces config s scripts)).marked config.placeholder 0,
        (Template.join " " (Script.keptPieces config s scripts)).values⟩ := by
  have texts := Script.kept_fragments config s scripts 0 silent
  have values := (flatMap_filter_eq_iff (fun script : Script S => (script.pieces config s).values)
    (fun script : Script S => script.keeps config s) scripts).mpr silent
  rw [prepare_ofScripts, assemble, texts, values, Template.marked_join, Template.values_join]
  simp [Script.keptPieces, List.flatMap_map]

theorem params_belong_to_kept_clauses (kind : Kind) (scripts : List (Script S)) (config : Config)
    (s : S) :
    let kept := scripts.filter fun script => script.keeps config s
    let statement := Template.join " " (kept.map fun script => script.pieces config s)
    (ofScripts kind kept).prepare config s =
        ⟨statement.marked config.placeholder 0, statement.values⟩ ∧
      statement.placeholders config.placeholder 0 =
        (List.range' 1 statement.values.length).map config.placeholder.mark ∧
      ((ofScripts kind scripts).prepare config s = (ofScripts kind kept).prepare config s ↔
        Script.DroppedAreSilent config s scripts) := by
  intro kept statement
  have again : Script.keptPieces config s kept = Script.keptPieces config s scripts := by
    simp [Script.keptPieces, kept]
  have noneDropped : Script.DroppedAreSilent config s kept := by
    intro script member dropped
    simp [kept, dropped] at member
  have alone := prepare_of_silent kind kept config s noneDropped
  rw [again] at alone
  have listed := Template.placeholders_eq config.placeholder 0 statement
  refine ⟨alone, listed, ?_⟩
  constructor
  · intro same
    have params := congrArg Prepared.params same
    rw [prepare_ofScripts, prepare_ofScripts] at params
    exact (flatMap_filter_eq_iff _ _ scripts).mp params
  · intro silent
    rw [prepare_of_silent kind scripts config s silent, alone]

-- A clause that asks for a value and then finds that its columns have no names. It has no fragment,
-- but its value comes first among the parameters and the condition is numbered after it.
theorem dropped_clause_shifts_parameters :
    let tenant : Script Delete := ⟨"tenant", fun _ _ _ => [.value (.int 42), .columns [""]],
      fun _ _ _ => .written⟩
    let head := Script.ofTemplate "delete" fun config s => some (Delete.headTemplate config s)
    let condition := Script.ofTemplate "where" fun config s =>
      Clause.conditionTemplate "WHERE" config (Delete.condition s)
    let config : Config := { placeholder := .numbered }
    let s : Delete := { table := "t", condition := some (.compare { name := "id" } .eq (.int 7)) }
    let registry := ofScripts .delete [head, tenant, condition]
    Delete.clauses.insertAfter "delete" tenant.clause = .ok registry ∧
      tenant.fragment config s 0 = none ∧
      (registry.prepare config s).text = "DELETE FROM t WHERE id = $2" ∧
      (registry.prepare config s).params = [.int 42, .int 7] ∧
      (Delete.clauses.prepare config s).text = "DELETE FROM t WHERE id = $1" ∧
      (Delete.clauses.prepare config s).params = [.int 7] := by
  intro tenant head condition config s registry
  have placed : Delete.clauses.insertAfter "delete" tenant.clause = .ok registry := by
    rw [Delete.clauses_eq]
    simp only [registry, ofScripts, List.map_cons, List.map_nil, head, condition,
      Script.clause_ofTemplate]
    rfl
  have absent : tenant.fragment config s 0 = none := by rfl
  have text : (registry.prepare config s).text = "DELETE FROM t WHERE id = $2" := by decide +kernel
  have params : (registry.prepare config s).params = [.int 42, .int 7] := by rfl
  have before : (Delete.clauses.prepare config s).text = "DELETE FROM t WHERE id = $1" := by
    decide +kernel
  exact ⟨placed, absent, text, params, before, rfl⟩

end Registry

end SqlClauses
