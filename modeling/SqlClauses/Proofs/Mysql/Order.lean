import SqlClauses.Proofs.Mysql.Calls
import SqlClauses.Proofs.Statement.Fields

set_option autoImplicit false

namespace SqlClauses.Mysql

def Paging.Edit.field : Paging.Edit → Field
  | .limit _ => .limit
  | .offset _ => .offset

def Conflict.Edit.field : Conflict.Edit → Field
  | .ignore => .ignored
  | .updates _ => .updates
  | .updatesJson _ => .updates

def Bounds.Edit.field : Bounds.Edit → Field
  | .ordering _ => .ordering
  | .limit _ => .limit

theorem Paging.ofEdits_congr {es es' : List Paging.Edit} (same : SameByField Edit.field es es') :
    ofEdits es = ofEdits es' := by
  have limit := same.lastWritten_eq .limit Edit.limit? (by
    intro e
    cases e <;> simp [Edit.field, Edit.limit?])
  have offset := same.lastWritten_eq .offset Edit.offset? (by
    intro e
    cases e <;> simp [Edit.field, Edit.offset?])
  simp only [ofEdits, limit, offset]

theorem Conflict.ofEdits_congr {es es' : List Conflict.Edit}
    (same : SameByField Edit.field es es') : ofEdits es = ofEdits es' := by
  have ignored := same.lastWritten_eq .ignored Edit.ignore? (by
    intro e
    cases e <;> simp [Edit.field, Edit.ignore?])
  have updates := same.lastWritten_eq .updates Edit.updates? (by
    intro e
    cases e <;> simp [Edit.field, Edit.updates?])
  simp only [ofEdits, ignored, updates]

theorem Bounds.ofEdits_congr {es es' : List Bounds.Edit} (same : SameByField Edit.field es es') :
    ofEdits es = ofEdits es' := by
  have ordering := same.lastWritten_eq .ordering Edit.ordering? (by
    intro e
    cases e <;> simp [Edit.field, Edit.ordering?])
  have limit := same.lastWritten_eq .limit Edit.limit? (by
    intro e
    cases e <;> simp [Edit.field, Edit.limit?])
  simp only [ofEdits, ordering, limit]

namespace Extra

def field : {k : Kind} → Edit k → Field
  | .select, e => Paging.Edit.field e
  | .insert, e => Conflict.Edit.field e
  | .update, e => Bounds.Edit.field e
  | .delete, e => Bounds.Edit.field e

theorem ofEdits_congr {k : Kind} {es es' : List (Edit k)} (same : SameByField field es es') :
    ofEdits k es = ofEdits k es' := by
  cases k with
  | select => exact Paging.ofEdits_congr same
  | insert => exact Conflict.ofEdits_congr same
  | update | delete => exact Bounds.ofEdits_congr same

end Extra

namespace Draft

variable {k : Kind}

def field : Edit k → Field
  | .base e => Statement.field e
  | .extra e => Extra.field e

def ofEdits (table : String) (columns : List String) (edits : List (Edit k)) : Draft k where
  base := Statement.ofEdits table columns k (edits.filterMap Edit.base?)
  extra := Extra.ofEdits k (edits.filterMap Edit.extra?)

theorem run (table : String) (columns : List String) (edits : List (Edit k)) :
    edits.foldl edit (new table columns k) = ofEdits table columns edits := by
  have base := base_run (new table columns k) edits
  have extra := extra_run table columns edits
  cases reached : edits.foldl edit (new table columns k) with
  | mk b x =>
    rw [reached] at base extra
    simp only at base extra
    rw [base, extra, ofEdits, ← Statement.run]
    rfl

theorem ofEdits_congr (table : String) (columns : List String) {es es' : List (Edit k)}
    (same : SameByField field es es') : ofEdits table columns es = ofEdits table columns es' := by
  have base : SameByField Statement.field (es.filterMap Edit.base?) (es'.filterMap Edit.base?) := by
    apply same.filterMap
    intro e e' part
    cases e <;> cases part
    rfl
  have extra : SameByField Extra.field (es.filterMap Edit.extra?) (es'.filterMap Edit.extra?) := by
    apply same.filterMap
    intro e e' part
    cases e <;> cases part
    rfl
  rw [ofEdits, ofEdits, Statement.ofEdits_congr table columns base, Extra.ofEdits_congr extra]

end Draft

theorem Grammar.build_run (g : Grammar) {k : Kind} (table : String) (columns : List String)
    (edits : List (Draft.Edit k)) :
    edits.foldl Builder.edit (g.build table columns k) =
      ⟨Draft.ofEdits table columns edits, g⟩ := by
  rw [Builder.run, ← Draft.run]
  rfl

theorem calls_commute_across_fields (k : Kind) (table : String) (columns : List String) :
    (∀ edits : List (Statement.Edit k),
      edits.foldl Statement.edit (.new table columns k) =
        Statement.ofEdits table columns k edits) ∧
    (∀ edits : List (Draft.Edit k),
      edits.foldl Draft.edit (.new table columns k) = Draft.ofEdits table columns edits) ∧
    (∀ es es' : List (Statement.Edit k), SameByField Statement.field es es' →
      let s := es.foldl Statement.edit (.new table columns k)
      let s' := es'.foldl Statement.edit (.new table columns k)
      s = s' ∧ ∀ config, s.toSql config = s'.toSql config ∧ s.prepare config = s'.prepare config) ∧
    ∀ (g : Grammar) (es es' : List (Draft.Edit k)), SameByField Draft.field es es' →
      let b := es.foldl Builder.edit (g.build table columns k)
      let b' := es'.foldl Builder.edit (g.build table columns k)
      b.draft.base = b'.draft.base ∧ b.draft.extra = b'.draft.extra ∧ b.toSql = b'.toSql ∧
        b.prepare = b'.prepare := by
  refine ⟨Statement.run table columns, Draft.run table columns, ?_, ?_⟩
  · intro es es' same s s'
    have reached : s = s' := calc
      s = Statement.ofEdits table columns k es := Statement.run table columns es
      _ = Statement.ofEdits table columns k es' := Statement.ofEdits_congr table columns same
      _ = s' := (Statement.run table columns es').symm
    refine ⟨reached, fun config => ?_⟩
    rw [reached]
    exact ⟨rfl, rfl⟩
  · intro g es es' same b b'
    have reached : b = b' := calc
      b = ⟨Draft.ofEdits table columns es, g⟩ := g.build_run table columns es
      _ = ⟨Draft.ofEdits table columns es', g⟩ := by rw [Draft.ofEdits_congr table columns same]
      _ = b' := (g.build_run table columns es').symm
    rw [reached]
    exact ⟨rfl, rfl, rfl, rfl⟩

theorem paging_before_conditions :
    let calls : List (Draft.Edit .select) :=
      [.extra (.limit (some 5)), .extra (.offset (some 20)), .base (.ordering ["name"]),
        .base (.condition (.compare { name := "age" } .gt (.int 18))), .extra (.limit (some 10)),
        .base (.table "users"), .base (.condition (.raw "vip OR staff")),
        .base (.columns ["name"])]
    let inClauseOrder : List (Draft.Edit .select) :=
      [.base (.columns ["name"]), .base (.table "users"),
        .base (.condition (.compare { name := "age" } .gt (.int 18))),
        .base (.condition (.raw "vip OR staff")), .base (.ordering ["name"]),
        .extra (.limit (some 5)), .extra (.limit (some 10)), .extra (.offset (some 20))]
    SameByField Draft.field calls inClauseOrder ∧
      (calls.foldl Builder.edit (Grammar.standard.build "" [] .select)).toSql =
        (inClauseOrder.foldl Builder.edit (Grammar.standard.build "" [] .select)).toSql := by
  intro calls inClauseOrder
  have same : SameByField Draft.field calls inClauseOrder := by
    intro f
    cases f <;> rfl
  obtain ⟨-, -, -, builders⟩ := calls_commute_across_fields .select "" []
  exact ⟨same, (builders .standard calls inClauseOrder same).2.2.1⟩

end SqlClauses.Mysql
