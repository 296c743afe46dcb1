import SqlClauses.Proofs.Mysql.Calls
import SqlClauses.Proofs.Statement.Calls
import SqlClauses.Proofs.Statement.Fragments

set_option autoImplicit false

namespace SqlClauses

namespace Clause

theorem opens_countTemplate (keyword : String) (count : Option Nat) :
    ∀ u, countTemplate keyword count = some u → u.Opens := by
  intro u h
  match count with
  | none => simp [countTemplate] at h
  | some 0 => simp [countTemplate] at h
  | some (n + 1) => exact ⟨_, _, (Option.some.inj h).symm, by simp⟩

theorem opens_ignoreTemplate (ignored : Bool) :
    ∀ u, ignoreTemplate ignored = some u → u.Opens := by
  intro u h
  cases ignored with
  | false => simp [ignoreTemplate] at h
  | true => exact ⟨_, _, (Option.some.inj h).symm, by simp⟩

theorem opens_upsertTemplate (config : Config) (updates : Option (List UpdateColumn)) :
    ∀ u, updates.bind (upsertTemplate config) = some u → u.Opens := by
  intro u h
  obtain ⟨entries, -, h⟩ := Option.bind_eq_some_iff.mp h
  unfold upsertTemplate at h
  split at h
  · cases h
  · exact ⟨_, _, (Option.some.inj h).symm, by simp⟩

theorem values_countTemplate (keyword : String) (count : Option Nat) :
    (countTemplate keyword count).elim [] Template.values = [] := by
  match count with
  | none | some 0 | some (_ + 1) => rfl

theorem values_ignoreTemplate (ignored : Bool) :
    (ignoreTemplate ignored).elim [] Template.values = [] := by
  cases ignored <;> rfl

end Clause

theorem UpdateColumn.values_of_template (config : Config) (entry : UpdateColumn) (t : Template)
    (h : entry.template config = some t) : t.values = [] := by
  obtain ⟨text, -, rfl⟩ := Option.map_eq_some_iff.mp h
  rfl

namespace Clause

variable {S : Type} (config : Config) (s : S)

theorem limit_gives [HasLimit S] :
    (limit : Clause S).Gives config s (countTemplate "LIMIT" (HasLimit.limit s)) := by
  rw [limit, ofCount_eq]
  exact ofTemplate_gives _ _ _ _ (opens_countTemplate _ _)

theorem offset_gives [HasOffset S] :
    (offset : Clause S).Gives config s (countTemplate "OFFSET" (HasOffset.offset s)) := by
  rw [offset, ofCount_eq]
  exact ofTemplate_gives _ _ _ _ (opens_countTemplate _ _)

theorem ignore_gives [HasIgnore S] :
    (ignore : Clause S).Gives config s (ignoreTemplate (HasIgnore.ignored s)) := by
  rw [ignore_eq]
  exact ofTemplate_gives _ _ _ _ (opens_ignoreTemplate _)

theorem upsert_gives [HasUpsert S] :
    (upsert : Clause S).Gives config s ((HasUpsert.updates s).bind (upsertTemplate config)) := by
  rw [upsert_eq]
  exact ofTemplate_gives _ _ _ _ (opens_upsertTemplate _ _)

end Clause

theorem Clause.values_upsertTemplate (config : Config) (updates : Option (List UpdateColumn)) :
    (updates.bind (upsertTemplate config)).elim [] Template.values = [] := by
  cases updates with
  | none => rfl
  | some entries =>
    have silent : ∀ t ∈ entries.filterMap (UpdateColumn.template config), t.values = [] := by
      intro t member
      obtain ⟨entry, -, h⟩ := List.mem_filterMap.mp member
      exact entry.values_of_template config t h
    rw [Option.bind_some, upsertTemplate]
    split
    · rfl
    · rename_i shape
      rw [Option.elim_some, Template.values, Template.values_join]
      exact List.flatMap_eq_nil_iff.mpr silent

namespace Mysql

theorem clauses_select : (clauses .select).clauses =
    (inherited .select).clauses ++ [Clause.limit, Clause.offset] := rfl

theorem clauses_insert : (clauses .insert).clauses =
    [Insert.head.comap (Draft.base (k := .insert)), Clause.ignore,
      Insert.target.comap (Draft.base (k := .insert)),
      Insert.values.comap (Draft.base (k := .insert)), Clause.upsert] := rfl

theorem clauses_update : (clauses .update).clauses =
    (inherited .update).clauses ++ [Clause.ordering, Clause.limit] := rfl

theorem clauses_delete : (clauses .delete).clauses =
    (inherited .delete).clauses ++ [Clause.ordering, Clause.limit] := rfl

namespace Draft

def fragments (config : Config) : {k : Kind} → Draft k → List (Option Template)
  | .select, d =>
    Statement.fragments config d.base ++
      [Clause.countTemplate "LIMIT" d.extra.limit, Clause.countTemplate "OFFSET" d.extra.offset]
  | .insert, d =>
    [some Insert.headTemplate, Clause.ignoreTemplate d.extra.ignored,
      some (Insert.targetTemplate config d.base), Insert.rowsTemplate d.base.rows,
      d.extra.updates.bind (Clause.upsertTemplate config)]
  | .update, d =>
    Statement.fragments config d.base ++
      [Clause.columnsTemplate "ORDER BY" config d.extra.ordering,
        Clause.countTemplate "LIMIT" d.extra.limit]
  | .delete, d =>
    Statement.fragments config d.base ++
      [Clause.columnsTemplate "ORDER BY" config d.extra.ordering,
        Clause.countTemplate "LIMIT" d.extra.limit]

theorem inherited_gives (config : Config) {k : Kind} (d : Draft k) :
    (inherited k).Gives config d (Statement.fragments config d.base) :=
  Registry.comap_gives (Statement.clauses_gives config d.base)

theorem clauses_gives (config : Config) {k : Kind} (d : Draft k) :
    (clauses k).Gives config d (fragments config d) := by
  have base := inherited_gives config d
  unfold Registry.Gives at base ⊢
  cases k with
  | select =>
    rw [clauses_select]
    exact List.rel_append base
      (.cons (Clause.limit_gives config d) (.cons (Clause.offset_gives config d) .nil))
  | insert =>
    -- The extension stands between the clauses of the base, so these are taken one by one.
    obtain ⟨head, rest⟩ := List.forall₂_cons.mp base
    rw [clauses_insert]
    obtain ⟨target, rest⟩ := List.forall₂_cons.mp rest
    obtain ⟨rows, -⟩ := List.forall₂_cons.mp rest
    exact .cons head (.cons (Clause.ignore_gives config d)
      (.cons target (.cons rows (.cons (Clause.upsert_gives config d) .nil))))
  | update =>
    rw [clauses_update]
    exact List.rel_append base
      (.cons (Clause.ofColumns_gives _ _ _ _ _) (.cons (Clause.limit_gives config d) .nil))
  | delete =>
    rw [clauses_delete]
    exact List.rel_append base
      (.cons (Clause.ofColumns_gives _ _ _ _ _) (.cons (Clause.limit_gives config d) .nil))

-- No clause of MySQL brings values of its own.
theorem values_fragments (config : Config) {k : Kind} (d : Draft k) :
    ((fragments config d).flatMap fun f => f.elim [] Template.values) = d.base.values := by
  have base := Statement.values_fragments config d.base
  cases k with
  | select =>
    simp [fragments, base, Clause.values_countTemplate]
  | insert =>
    simp only [Statement.fragments, Insert.fragments] at base
    rw [← base]
    simp [fragments, Clause.values_ignoreTemplate, Clause.values_upsertTemplate]
  | update =>
    simp [fragments, base, Clause.values_countTemplate, Clause.values_columnsTemplate]
  | delete =>
    simp [fragments, base, Clause.values_countTemplate, Clause.values_columnsTemplate]

end Draft

theorem base_values_run (table : String) (columns : List String) {k : Kind}
    (edits : List (Draft.Edit k)) :
    (edits.foldl Draft.edit (Draft.new table columns k)).base.values =
      Statement.valuesOfEdits k (edits.filterMap Draft.Edit.base?) := by
  rw [Draft.base_run]
  exact Statement.values_run table columns _

theorem text_and_params_read_one_template (config : Config) (k : Kind) :
    (∀ s : Statement k, ∃ t : Template,
      TwoReadings t config.placeholder (s.toSql config) (s.prepare config) ∧
        t.values = s.values) ∧
    (∀ d : Draft k, ∃ t : Template,
      TwoReadings t config.placeholder (Builder.mk d (.withConfig config)).toSql
          (Builder.mk d (.withConfig config)).prepare ∧
        t.values = d.base.values) ∧
    (∀ (table : String) (columns : List String) (edits : List (Statement.Edit k)),
      let s := edits.foldl Statement.edit (Statement.new table columns k)
      s.values = Statement.valuesOfEdits k edits ∧ ∃ t : Template,
        TwoReadings t config.placeholder (s.toSql config) (s.prepare config) ∧
          t.values = Statement.valuesOfEdits k edits) ∧
    ∀ (table : String) (columns : List String) (edits : List (Draft.Edit k)),
      let b := edits.foldl Builder.edit ((Grammar.withConfig config).build table columns k)
      ∃ t : Template, TwoReadings t config.placeholder b.toSql b.prepare ∧
        t.values = Statement.valuesOfEdits k (edits.filterMap Draft.Edit.base?) := by
  have core : ∀ s : Statement k, ∃ t : Template,
      TwoReadings t config.placeholder (s.toSql config) (s.prepare config) ∧
        t.values = s.values := by
    intro s
    refine ⟨.ofFragments (s.fragments config), (s.clauses_gives config).twoReadings, ?_⟩
    rw [Template.values_ofFragments, Statement.values_fragments]
  have mysql : ∀ d : Draft k, ∃ t : Template,
      TwoReadings t config.placeholder (Builder.mk d (.withConfig config)).toSql
          (Builder.mk d (.withConfig config)).prepare ∧
        t.values = d.base.values := by
    intro d
    refine ⟨.ofFragments (d.fragments config), (d.clauses_gives config).twoReadings, ?_⟩
    rw [Template.values_ofFragments, Draft.values_fragments]
  refine ⟨core, mysql, ?_, ?_⟩
  · intro table columns edits s
    have values : s.values = Statement.valuesOfEdits k edits :=
      Statement.values_run table columns edits
    obtain ⟨t, readings, same⟩ := core s
    exact ⟨values, t, readings, same.trans values⟩
  · intro table columns edits b
    have run : b = ⟨edits.foldl Draft.edit (Draft.new table columns k), .withConfig config⟩ :=
      Builder.run _ edits
    obtain ⟨t, readings, same⟩ := mysql (edits.foldl Draft.edit (Draft.new table columns k))
    rw [run]
    exact ⟨t, readings, same.trans (base_values_run table columns edits)⟩

end Mysql

end SqlClauses
