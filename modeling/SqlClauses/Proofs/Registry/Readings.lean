import Mathlib.Data.List.Forall2
import SqlClauses.Proofs.Template.Clauses
import SqlClauses.Proofs.Template.Join

set_option autoImplicit false

namespace SqlClauses

variable {S T : Type}

structure Clause.Gives (c : Clause S) (config : Config) (s : S) (t : Option Template) : Prop where
  inline : (c.renderer s).run (Context.inline config) =
    pure (t.map Template.inline, Context.inline config)
  collecting : ∀ values : Array Value, (c.renderer s).run ⟨config, some values⟩ =
    pure (t.map (Template.marked config.placeholder values.size),
      ⟨config, some (values ++ (t.elim [] Template.values).toArray)⟩)
  opens : ∀ u, t = some u → u.Opens

theorem Clause.ofTemplate_gives (name : String) (template : Config → S → Option Template)
    (config : Config) (s : S) (opens : ∀ u, template config s = some u → u.Opens) :
    (ofTemplate name template).Gives config s (template config s) where
  inline := run_ofTemplate_inline name template config s
  collecting values := run_ofTemplate_collecting name template config values s
  opens := opens

theorem Clause.comap_gives {view : T → S} {c : Clause S} {config : Config} {s : T}
    {t : Option Template} (gives : c.Gives config (view s) t) : (c.comap view).Gives config s t :=
  ⟨gives.inline, gives.collecting, gives.opens⟩

def Registry.Gives (R : Registry S) (config : Config) (s : S)
    (fragments : List (Option Template)) : Prop :=
  List.Forall₂ (fun c t => c.Gives config s t) R.clauses fragments

theorem Registry.comap_gives {view : T → S} {R : Registry S} {config : Config} {s : T}
    {fragments : List (Option Template)} (gives : R.Gives config (view s) fragments) :
    (R.comap view).Gives config s fragments := by
  unfold Registry.Gives at *
  simp only [Registry.comap, List.forall₂_map_left_iff]
  exact gives.imp fun _ _ h => Clause.comap_gives h

structure TwoReadings (t : Template) (style : Placeholder) (text : String) (p : Prepared) :
    Prop where
  inline : text = t.inline
  marked : p.text = t.marked style 0
  params : p.params = t.values

namespace Registry

variable {config : Config} {s : S}

theorem opens_of_forall₂ {clauses : List (Clause S)} {fragments : List (Option Template)}
    (gives : List.Forall₂ (fun c t => c.Gives config s t) clauses fragments) :
    ∀ t, some t ∈ fragments → t.Opens := by
  induction gives with
  | nil => simp
  | cons head _ ih =>
    intro t member
    rcases List.mem_cons.mp member with same | member
    · exact head.opens t same.symm
    · exact ih t member

theorem run_clauses_inline {clauses : List (Clause S)} {fragments : List (Option Template)}
    (gives : List.Forall₂ (fun c t => c.Gives config s t) clauses fragments) :
    (clauses.mapM fun (c : Clause S) => c.renderer s).run (Context.inline config) =
      pure (fragments.map (Option.map Template.inline), Context.inline config) := by
  induction gives with
  | nil => rfl
  | cons head _ ih =>
    rw [List.mapM_cons]
    simp [head.inline, ih]

-- Each clause numbers its placeholders from the count that the clauses before it leave behind.
theorem run_clauses_collecting {clauses : List (Clause S)} {fragments : List (Option Template)}
    (gives : List.Forall₂ (fun c t => c.Gives config s t) clauses fragments)
    (values : Array Value) :
    (clauses.mapM fun (c : Clause S) => c.renderer s).run ⟨config, some values⟩ =
      pure (Template.markedFragments config.placeholder values.size fragments,
        ⟨config, some (values ++ (fragments.flatMap fun f => f.elim [] Template.values).toArray)⟩) := by
  induction gives generalizing values with
  | nil => simp [Template.markedFragments]
  | @cons c t clauses fragments head _ ih =>
    rw [List.mapM_cons]
    cases t <;> simp [head.collecting, ih, Template.markedFragments]

def written (R : Registry S) (cx : Context) (s : S) : List (Option String) :=
  ((R.clauses.mapM fun (c : Clause S) => c.renderer s).runFrom cx).1

theorem assembled (R : Registry S) (config : Config) (s : S) :
    R.toSql config s = assemble (R.written (.inline config) s) ∧
      (R.prepare config s).text = assemble (R.written (.parameterized config) s) := by
  simp [toSql, prepare, render, written, Render.runFrom]

theorem Gives.written_inline {R : Registry S} {fragments : List (Option Template)}
    (gives : R.Gives config s fragments) :
    R.written (.inline config) s = fragments.map (Option.map Template.inline) := by
  simp [written, Render.runFrom, run_clauses_inline gives]

theorem Gives.written_collecting {R : Registry S} {fragments : List (Option Template)}
    (gives : R.Gives config s fragments) (values : Array Value) :
    R.written ⟨config, some values⟩ s =
      Template.markedFragments config.placeholder values.size fragments := by
  simp [written, Render.runFrom, run_clauses_collecting gives]

theorem Gives.twoReadings {R : Registry S} {fragments : List (Option Template)}
    (gives : R.Gives config s fragments) :
    TwoReadings (.ofFragments fragments) config.placeholder (R.toSql config s)
      (R.prepare config s) := by
  have opens := opens_of_forall₂ gives
  have inline : (R.render s).run (Context.inline config) =
      pure ((Template.ofFragments fragments).inline, Context.inline config) := by
    simp [Registry.render, run_clauses_inline gives, Template.assemble_inline fragments opens]
  have collecting : (R.render s).run (Context.parameterized config) =
      pure ((Template.ofFragments fragments).marked config.placeholder 0,
        ⟨config, some (Template.ofFragments fragments).values.toArray⟩) := by
    simp [Registry.render, Context.parameterized, run_clauses_collecting gives,
      Template.assemble_marked config.placeholder 0 fragments opens]
  constructor
  · simp [Registry.toSql, Render.runFrom, inline]
  · simp [Registry.prepare, Render.runFrom, collecting]
  · simp [Registry.prepare, Render.runFrom, collecting, Context.params]

end Registry

end SqlClauses
