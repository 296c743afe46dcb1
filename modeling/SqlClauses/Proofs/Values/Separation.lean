import SqlClauses.Proofs.Mysql.Fragments
import SqlClauses.Proofs.Registry.Placement
import SqlClauses.Proofs.Values.Replace

set_option autoImplicit false

namespace SqlClauses

variable {S T : Type}

def Clause.Separates (c : Clause S) (config : Config) (f : Value → Value) (replace : S → S) :
    Prop :=
  ∀ (s : S) (values : Array Value), ∃ text collected,
    (c.renderer s).run ⟨config, some values⟩ = pure (text, ⟨config, some collected⟩) ∧
    (c.renderer (replace s)).run ⟨config, some (values.map f)⟩ =
      pure (text, ⟨config, some (collected.map f)⟩)

def Registry.Separates (R : Registry S) (config : Config) (f : Value → Value)
    (replace : S → S) : Prop :=
  ∀ c ∈ R.clauses, c.Separates config f replace

def Prepared.mapParams (f : Value → Value) (p : Prepared) : Prepared :=
  { p with params := p.params.map f }

variable {config : Config} {f : Value → Value}

namespace Clause

theorem ofTemplate_separates (name : String) {template : Config → S → Option Template}
    {replace : S → S}
    (replaced : ∀ s, template config (replace s) = (template config s).map (.mapValues f)) :
    (ofTemplate name template).Separates config f replace := by
  intro s values
  refine ⟨_, _, run_ofTemplate_collecting name template config values s, ?_⟩
  rw [run_ofTemplate_collecting, replaced]
  cases template config s <;> simp

-- A clause that reads nothing of the values and holds none.
theorem ofTemplate_separates_of_silent (name : String) {template : Config → S → Option Template}
    {replace : S → S} (unread : ∀ s, template config (replace s) = template config s)
    (silent : ∀ s, (template config s).elim [] Template.values = []) :
    (ofTemplate name template).Separates config f replace := by
  refine ofTemplate_separates name fun s => ?_
  rw [unread, Template.map_mapValues_of_silent f (silent s)]

theorem comap_separates {view : T → S} {c : Clause S} {replace : S → S} {replace' : T → T}
    (viewed : ∀ t, view (replace' t) = replace (view t)) (h : c.Separates config f replace) :
    (c.comap view).Separates config f replace' := by
  intro t values
  obtain ⟨text, collected, before, after⟩ := h (view t) values
  refine ⟨text, collected, before, ?_⟩
  rw [← viewed] at after
  exact after

theorem ofColumns_separates (name keyword : String) {columns : S → List String}
    {replace : S → S} (unread : ∀ s, columns (replace s) = columns s) :
    (ofColumns name keyword columns).Separates config f replace := by
  rw [ofColumns_eq]
  exact ofTemplate_separates_of_silent name (fun s => by rw [unread])
    fun _ => values_columnsTemplate _ _ _

theorem ofCondition_separates (name keyword : String) {condition : S → Option Expr}
    {replace : S → S} (replaced : ∀ s, condition (replace s) = (condition s).map (.mapValues f)) :
    (ofCondition name keyword condition).Separates config f replace := by
  rw [ofCondition_eq]
  refine ofTemplate_separates name fun s => ?_
  rw [replaced]
  cases condition s <;> simp [conditionTemplate, Expr.template_mapValues]

theorem ofCount_separates (name keyword : String) {count : S → Option Nat} {replace : S → S}
    (unread : ∀ s, count (replace s) = count s) :
    (ofCount name keyword count).Separates config f replace := by
  rw [ofCount_eq]
  exact ofTemplate_separates_of_silent name (fun s => by rw [unread])
    fun _ => values_countTemplate _ _

theorem ignore_separates [HasIgnore S] {replace : S → S}
    (unread : ∀ s, HasIgnore.ignored (replace s) = HasIgnore.ignored s) :
    (ignore : Clause S).Separates config f replace := by
  rw [ignore_eq]
  exact ofTemplate_separates_of_silent "ignore" (fun s => by rw [unread])
    fun _ => values_ignoreTemplate _

theorem upsert_separates [HasUpsert S] {replace : S → S}
    (unread : ∀ s, HasUpsert.updates (replace s) = HasUpsert.updates s) :
    (upsert : Clause S).Separates config f replace := by
  rw [upsert_eq]
  exact ofTemplate_separates_of_silent "on_duplicate_key_update" (fun s => by rw [unread])
    fun _ => values_upsertTemplate _ _

end Clause

namespace Registry

variable {replace : S → S}

theorem run_separated {clauses : List (Clause S)}
    (separates : ∀ c ∈ clauses, c.Separates config f replace) (s : S) (values : Array Value) :
    ∃ texts collected,
      (clauses.mapM fun (c : Clause S) => c.renderer s).run ⟨config, some values⟩ =
        pure (texts, ⟨config, some collected⟩) ∧
      (clauses.mapM fun (c : Clause S) => c.renderer (replace s)).run
          ⟨config, some (values.map f)⟩ = pure (texts, ⟨config, some (collected.map f)⟩) := by
  induction clauses generalizing values with
  | nil => exact ⟨[], values, rfl, rfl⟩
  | cons c rest ih =>
    obtain ⟨text, next, before, after⟩ := separates c (by simp) s values
    obtain ⟨texts, collected, later, later'⟩ := ih (fun d member => separates d (by simp [member])) next
    refine ⟨text :: texts, collected, ?_, ?_⟩
    · simp [List.mapM_cons, before, later]
    · simp [List.mapM_cons, after, later']

theorem Separates.prepare_eq {R : Registry S} (separates : R.Separates config f replace) (s : S) :
    R.prepare config (replace s) = (R.prepare config s).mapParams f := by
  obtain ⟨texts, collected, before, after⟩ := run_separated separates s #[]
  rw [Array.map_empty] at after
  simp [prepare, render, Render.runFrom, Context.parameterized, before, after, Prepared.mapParams,
    Context.params]

theorem Separates.afterwards {R : Registry S} {c : Clause S}
    (separates : R.Separates config f replace) (anchor : String) (h : c.Separates config f replace) :
    (R.afterwards anchor c).Separates config f replace := by
  intro d member
  rcases mem_afterwards member with rfl | kept
  · exact h
  · exact separates d kept

end Registry

namespace Statement

theorem clauses_separate (config : Config) (f : Value → Value) (k : Kind) :
    (clauses k).Separates config f (mapValues f) := by
  unfold Registry.Separates
  cases k with
  | select =>
    simp only [clauses, Select.clauses, List.forall_mem_cons, Select.head_eq, Select.joined_eq]
    refine ⟨?head, ?tables, ?joins, ?condition, ?grouping, ?having, ?ordering, by simp⟩
    case head => exact Clause.ofTemplate_separates _ fun _ => rfl
    case tables => exact Clause.ofColumns_separates _ _ fun _ => rfl
    case joins =>
      exact Clause.ofTemplate_separates_of_silent _ (fun _ => rfl)
        fun _ => Select.values_joinsTemplate _ _
    case condition => exact Clause.ofCondition_separates _ _ fun _ => rfl
    case grouping => exact Clause.ofColumns_separates _ _ fun _ => rfl
    case having => exact Clause.ofCondition_separates _ _ fun _ => rfl
    case ordering => exact Clause.ofColumns_separates _ _ fun _ => rfl
  | insert =>
    simp only [clauses, Insert.clauses, List.forall_mem_cons, Insert.head_eq, Insert.target_eq,
      Insert.values_eq]
    refine ⟨?head, ?target, ?rows, by simp⟩
    case head => exact Clause.ofTemplate_separates _ fun _ => rfl
    case target =>
      refine Clause.ofTemplate_separates_of_silent _ (fun _ => rfl) fun _ => ?_
      exact Insert.values_targetTemplate _ _
    case rows => exact Clause.ofTemplate_separates _ (Insert.rowsTemplate_mapValues f)
  | update =>
    simp only [clauses, Update.clauses, List.forall_mem_cons, Update.head_eq, Update.assigned_eq]
    refine ⟨?head, ?assigned, ?condition, by simp⟩
    case head => exact Clause.ofTemplate_separates _ fun _ => rfl
    case assigned => exact Clause.ofTemplate_separates _ (Update.assignedTemplate_mapValues f config)
    case condition => exact Clause.ofCondition_separates _ _ fun _ => rfl
  | delete =>
    simp only [clauses, Delete.clauses, List.forall_mem_cons, Delete.head_eq]
    refine ⟨?head, ?condition, by simp⟩
    case head => exact Clause.ofTemplate_separates _ fun _ => rfl
    case condition => exact Clause.ofCondition_separates _ _ fun _ => rfl

end Statement

namespace Mysql

theorem inherited_separate (config : Config) (f : Value → Value) (k : Kind) :
    (inherited k).Separates config f (Draft.mapValues f) := by
  intro c member
  obtain ⟨c, inBase, rfl⟩ := List.mem_map.mp member
  exact Clause.comap_separates (fun _ => rfl) (Statement.clauses_separate config f k c inBase)

theorem clauses_separate (config : Config) (f : Value → Value) (k : Kind) :
    (clauses k).Separates config f (Draft.mapValues f) := by
  have base := inherited_separate config f k
  cases k with
  | select =>
    exact (base.afterwards _ (Clause.ofCount_separates _ _ fun _ => rfl)).afterwards _
      (Clause.ofCount_separates _ _ fun _ => rfl)
  | insert =>
    exact (base.afterwards _ (Clause.ignore_separates fun _ => rfl)).afterwards _
      (Clause.upsert_separates fun _ => rfl)
  | update =>
    exact (base.afterwards _ (Clause.ofColumns_separates _ _ fun _ => rfl)).afterwards _
      (Clause.ofCount_separates _ _ fun _ => rfl)
  | delete =>
    exact (base.afterwards _ (Clause.ofColumns_separates _ _ fun _ => rfl)).afterwards _
      (Clause.ofCount_separates _ _ fun _ => rfl)

end Mysql

def Statement.Alike {k : Kind} (s t : Statement k) : Prop :=
  s.mapValues (fun _ => .null) = t.mapValues fun _ => .null

def Mysql.Draft.Alike {k : Kind} (d e : Draft k) : Prop :=
  d.mapValues (fun _ => .null) = e.mapValues fun _ => .null

-- Statements that differ in their values alone become the same once all values are blanked out.
theorem Registry.Separates.text_eq {R : Registry S} {replace : S → S}
    (separates : R.Separates config f replace) {s t : S} (alike : replace s = replace t) :
    (R.prepare config s).text = (R.prepare config t).text := by
  calc (R.prepare config s).text = (R.prepare config (replace s)).text := by
        rw [separates.prepare_eq]; rfl
    _ = (R.prepare config (replace t)).text := by rw [alike]
    _ = (R.prepare config t).text := by rw [separates.prepare_eq]; rfl

namespace Mysql

theorem parameterized_text_ignores_values (f : Value → Value) (config : Config) (k : Kind) :
    (∀ s : Statement k, (s.mapValues f).prepare config = (s.prepare config).mapParams f) ∧
    (∀ d : Draft k, (Builder.mk (d.mapValues f) (.withConfig config)).prepare =
      (Builder.mk d (.withConfig config)).prepare.mapParams f) ∧
    (∀ s t : Statement k, s.Alike t → (s.prepare config).text = (t.prepare config).text) ∧
    (∀ d e : Draft k, d.Alike e →
      (Builder.mk d (.withConfig config)).prepare.text =
        (Builder.mk e (.withConfig config)).prepare.text) ∧
    (∀ g : Grammar, (g.registry k).Separates g.config f (Draft.mapValues f) →
      ∀ d : Draft k, (Builder.mk (d.mapValues f) g).prepare =
        (Builder.mk d g).prepare.mapParams f) ∧
    ∀ (table : String) (columns : List String),
      (∀ edits : List (Statement.Edit k),
        (edits.map (Statement.Edit.mapValues f)).foldl Statement.edit (.new table columns k) =
          (edits.foldl Statement.edit (.new table columns k)).mapValues f) ∧
      ∀ edits : List (Draft.Edit k),
        (edits.map (Draft.Edit.mapValues f)).foldl Draft.edit (.new table columns k) =
          (edits.foldl Draft.edit (.new table columns k)).mapValues f := by
  refine ⟨?core, ?mysql, ?alike, ?mysqlAlike, ?grammar, ?calls⟩
  case core => exact (Statement.clauses_separate config f k).prepare_eq
  case mysql => exact (clauses_separate config f k).prepare_eq
  case alike => exact fun _ _ => (Statement.clauses_separate config _ k).text_eq
  case mysqlAlike => exact fun _ _ => (clauses_separate config _ k).text_eq
  case grammar => exact fun _ separates => separates.prepare_eq
  case calls =>
    intro table columns
    constructor
    · intro edits
      rw [Statement.mapValues_run, Statement.mapValues_new]
    · intro edits
      rw [Draft.mapValues_run, Draft.mapValues_new]

theorem injected_row_keeps_text :
    let f : Value → Value := fun _ => .text "'); DROP TABLE t; --"
    let s : Statement .insert := ({ table := "t", rows := [[.int 1, .null]] } : Insert)
    let d : Draft .insert := ⟨s, { ignored := true }⟩
    let note : Clause (Draft .insert) := .ofTemplate "note" fun _ _ => some [.text "AS new"]
    let g := (Grammar.withConfig {}).replace .insert ((clauses .insert).afterwards "values" note)
    s.Alike (s.mapValues f) ∧ d.Alike (d.mapValues f) ∧
      (g.registry .insert).Separates g.config f (Draft.mapValues f) ∧
      (s.prepare {}).text = "INSERT INTO t VALUES (?, ?)" ∧
      ((s.mapValues f).prepare {}).text = (s.prepare {}).text ∧
      (Builder.mk (d.mapValues f) (.withConfig {})).prepare.text =
        (Builder.mk d (.withConfig {})).prepare.text ∧
      (Builder.mk (d.mapValues f) g).prepare = (Builder.mk d g).prepare.mapParams f := by
  intro f s d note g
  obtain ⟨-, -, alike, mysqlAlike, grammar, -⟩ :=
    parameterized_text_ignores_values f {} .insert
  have registered : g.registry .insert = (clauses .insert).afterwards "values" note :=
    Grammar.registry_replace_self _ _ _
  have separates : (g.registry .insert).Separates g.config f (Draft.mapValues f) := by
    rw [registered]
    exact (clauses_separate _ f .insert).afterwards "values"
      (Clause.ofTemplate_separates _ fun _ => rfl)
  have statements : s.Alike (s.mapValues f) := rfl
  have drafts : d.Alike (d.mapValues f) := rfl
  have text : (s.prepare {}).text = "INSERT INTO t VALUES (?, ?)" := by decide +kernel
  exact ⟨statements, drafts, separates, text, (alike _ _ statements).symm,
    (mysqlAlike _ _ drafts).symm, grammar g separates d⟩

end Mysql

end SqlClauses
