import SqlClauses.Proofs.Mysql.Calls
import SqlClauses.Proofs.Mysql.Fragments

set_option autoImplicit false

namespace SqlClauses

namespace Template

def spaced (fragments : List (Option Template)) : Template :=
  (fragments.filterMap id).flatMap fun t => .text " " :: t

theorem join_cons (separator : String) (t : Template) (rest : List Template) :
    join separator (t :: rest) = t ++ rest.flatMap fun u => .text separator :: u := by
  induction rest generalizing t with
  | nil => simp
  | cons u rest ih => simp [ih]

structure IsReading (read : Template → String) : Prop where
  append_silent : ∀ s t, t.values = [] → read (s ++ t) = read s ++ t.inline
  silent_append : ∀ s t, s.values = [] → read (s ++ t) = s.inline ++ read t

theorem isReading_inline : IsReading inline where
  append_silent s t _ := inline_append s t
  silent_append s t _ := inline_append s t

theorem isReading_marked (style : Placeholder) (earlier : Nat) :
    IsReading (marked style earlier) where
  append_silent s t silent := by rw [marked_append, marked_eq_inline _ _ t silent]
  silent_append s t silent := by simp [marked_eq_inline _ _ s silent, silent]

theorem ofFragments_some_cons (first : Template) (rest : List (Option Template)) :
    ofFragments (some first :: rest) = first ++ spaced rest := by
  simp [ofFragments, spaced, join_cons]

theorem spaced_append (first second : List (Option Template)) :
    spaced (first ++ second) = spaced first ++ spaced second := by
  simp [spaced]

@[simp] theorem spaced_nil : spaced [] = [] := rfl

theorem spaced_cons (f : Option Template) (rest : List (Option Template)) :
    spaced (f :: rest) = f.elim [] (.text " " :: ·) ++ spaced rest := by
  cases f <;> simp [spaced]

theorem values_spaced (fragments : List (Option Template)) :
    (spaced fragments).values = fragments.flatMap fun f => f.elim [] values := by
  induction fragments with
  | nil => rfl
  | cons f rest ih => cases f <;> simp [spaced_cons, ih, values]

theorem ofFragments_append (first : Template) (rest more : List (Option Template)) :
    ofFragments (some first :: rest ++ more) =
      ofFragments (some first :: rest) ++ spaced more := by
  rw [List.cons_append, ofFragments_some_cons, ofFragments_some_cons, spaced_append,
    List.append_assoc]

end Template

namespace Mysql

def countSuffix (keyword : String) : Option Nat → String
  | none => ""
  | some n => if n = 0 then "" else " " ++ keyword ++ " " ++ toString n

def orderingSuffix (config : Config) (names : List String) : String :=
  match names.filter (· ≠ "") with
  | [] => ""
  | kept => " ORDER BY " ++ ", ".intercalate (kept.map config.column)

def ignoreInfix (ignored : Bool) : String :=
  if ignored then " IGNORE" else ""

-- A column takes the value that the row brought for it, or an expression.
def assignmentTexts (config : Config) : UpdateColumn → List String
  | .values "" => []
  | .values column => [config.column column ++ " = VALUES(" ++ config.column column ++ ")"]
  | .assign column expr => [config.column column ++ " = " ++ expr]
  | .skip => []

def updatesSuffix (config : Config) : Option (List UpdateColumn) → String
  | none => ""
  | some entries =>
    match entries.flatMap (assignmentTexts config) with
    | [] => ""
    | texts => " ON DUPLICATE KEY UPDATE " ++ ", ".intercalate texts

-- The text of a base statement, and the same text with the extensions at their places.
def Extended (config : Config) : {k : Kind} → Extra k → String → String → Prop
  | .select, x, base, extended =>
    extended = base ++ countSuffix "LIMIT" x.limit ++ countSuffix "OFFSET" x.offset
  | .insert, x, base, extended =>
    ∃ rest, base = "INSERT" ++ " INTO" ++ rest ∧
      extended =
        "INSERT" ++ ignoreInfix x.ignored ++ " INTO" ++ rest ++ updatesSuffix config x.updates
  | .update, x, base, extended =>
    extended = base ++ orderingSuffix config x.ordering ++ countSuffix "LIMIT" x.limit
  | .delete, x, base, extended =>
    extended = base ++ orderingSuffix config x.ordering ++ countSuffix "LIMIT" x.limit

theorem inline_countTemplate (keyword : String) (count : Option Nat) :
    Template.inline ((Clause.countTemplate keyword count).elim [] (.text " " :: ·)) =
      countSuffix keyword count := by
  match count with
  | none | some 0 => rfl
  | some (n + 1) => simp [Clause.countTemplate, countSuffix, String.append_assoc]

theorem inline_orderingTemplate (config : Config) (names : List String) :
    Template.inline ((Clause.columnsTemplate "ORDER BY" config names).elim [] (.text " " :: ·)) =
      orderingSuffix config names := by
  unfold Clause.columnsTemplate Config.columns Reference.columns orderingSuffix
  cases names.filter (· ≠ "") with
  | nil => rfl
  | cons name rest =>
    change " " ++ ("ORDER BY " ++ _) = _
    rw [← String.append_assoc]
    rfl

theorem inline_ignoreTemplate (ignored : Bool) :
    Template.inline ((Clause.ignoreTemplate ignored).elim [] (.text " " :: ·)) =
      ignoreInfix ignored := by
  cases ignored <;> rfl

theorem toList_text (config : Config) (entry : UpdateColumn) :
    (entry.text config).toList = assignmentTexts config entry := by
  cases entry with
  | values column =>
    by_cases unnamed : column = "" <;> simp [UpdateColumn.text, assignmentTexts, unnamed]
  | assign column expr => rfl
  | skip => rfl

theorem flatMap_assignmentTexts (config : Config) (entries : List UpdateColumn) :
    entries.flatMap (assignmentTexts config) =
      entries.filterMap (UpdateColumn.text config) := by
  rw [List.filterMap_eq_flatMap_toList]
  exact congrArg (entries.flatMap ·) (funext fun entry => (toList_text config entry).symm)

theorem inline_upsertTemplate (config : Config) (updates : Option (List UpdateColumn)) :
    Template.inline ((updates.bind (Clause.upsertTemplate config)).elim [] (.text " " :: ·)) =
      updatesSuffix config updates := by
  cases updates with
  | none => rfl
  | some entries =>
    rw [updatesSuffix, flatMap_assignmentTexts, Option.bind_some, Clause.upsertTemplate,
      UpdateColumn.filterMap_template]
    cases entries.filterMap (UpdateColumn.text config) with
    | nil => rfl
    | cons text rest =>
      have list := Template.inline_texts ", " (text :: rest)
      rw [List.map_cons] at list
      simp only [List.map_cons, Option.elim_some, Template.inline_text_cons, list]
      rw [← String.append_assoc]
      rfl

section Readings

variable {read : Template → String} (reading : Template.IsReading read) (config : Config)

include reading

theorem read_paging (d : Draft .select) :
    read (.ofFragments (d.fragments config)) =
      read (.ofFragments (Statement.fragments config d.base)) ++
        countSuffix "LIMIT" d.extra.limit ++ countSuffix "OFFSET" d.extra.offset := by
  have silent : (Template.spaced [Clause.countTemplate "LIMIT" d.extra.limit,
      Clause.countTemplate "OFFSET" d.extra.offset]).values = [] := by
    simp [Template.values_spaced, Clause.values_countTemplate]
  simp only [Draft.fragments, Statement.fragments, Select.fragments]
  rw [Template.ofFragments_append, reading.append_silent _ _ silent]
  simp [Template.spaced_cons, inline_countTemplate, String.append_assoc]

-- An update and a deletion end with the same two clauses, whatever stands before.
theorem read_bounds (first : Template) (rest : List (Option Template)) (x : Bounds) :
    read (.ofFragments (some first :: rest ++
        [Clause.columnsTemplate "ORDER BY" config x.ordering,
          Clause.countTemplate "LIMIT" x.limit])) =
      read (.ofFragments (some first :: rest)) ++
        orderingSuffix config x.ordering ++ countSuffix "LIMIT" x.limit := by
  have silent : (Template.spaced [Clause.columnsTemplate "ORDER BY" config x.ordering,
      Clause.countTemplate "LIMIT" x.limit]).values = [] := by
    simp [Template.values_spaced, Clause.values_countTemplate, Clause.values_columnsTemplate]
  rw [Template.ofFragments_append, reading.append_silent _ _ silent]
  simp [Template.spaced_cons, inline_countTemplate, inline_orderingTemplate, String.append_assoc]

theorem read_conflict (d : Draft .insert) :
    ∃ rest, read (.ofFragments (Statement.fragments config d.base)) =
        "INSERT" ++ " INTO" ++ rest ∧
      read (.ofFragments (d.fragments config)) =
        "INSERT" ++ ignoreInfix d.extra.ignored ++ " INTO" ++ rest ++
          updatesSuffix config d.extra.updates := by
  obtain ⟨after, target⟩ : ∃ after,
      (Insert.targetTemplate config d.base).inline = "INTO" ++ after := by
    unfold Insert.targetTemplate
    cases config.columns d.base.columns with
    | none => exact ⟨" " ++ config.column d.base.table, by simp [← String.append_assoc]⟩
    | some list =>
      exact ⟨" " ++ config.column d.base.table ++ " (" ++ list ++ ")", by
        simp [← String.append_assoc]⟩
  let rows := Template.spaced [Insert.rowsTemplate d.base.rows]
  let front := Template.spaced [some (Insert.targetTemplate config d.base)]
  let ignore := Template.spaced [Clause.ignoreTemplate d.extra.ignored]
  let updates := Template.spaced [d.extra.updates.bind (Clause.upsertTemplate config)]
  have frontSilent : (Insert.headTemplate ++ front).values = [] := by
    simp [front, Insert.headTemplate, Template.values, Template.values_spaced,
      Insert.values_targetTemplate]
  have ignoreSilent : (Insert.headTemplate ++ ignore ++ front).values = [] := by
    simp [front, ignore, Insert.headTemplate, Template.values, Template.values_spaced,
      Insert.values_targetTemplate, Clause.values_ignoreTemplate]
  have updatesSilent : updates.values = [] := by
    simp [updates, Template.values_spaced, Clause.values_upsertTemplate]
  have base : Template.ofFragments (Statement.fragments config d.base) =
      Insert.headTemplate ++ front ++ rows := by
    simp [Statement.fragments, Insert.fragments, Template.ofFragments_some_cons, front, rows,
      Template.spaced_cons]
  have extended : Template.ofFragments (d.fragments config) =
      Insert.headTemplate ++ ignore ++ front ++ rows ++ updates := by
    simp [Draft.fragments, Template.ofFragments_some_cons, front, rows, ignore, updates,
      Template.spaced_cons]
  refine ⟨after ++ read rows, ?_, ?_⟩
  · rw [base, reading.silent_append _ _ frontSilent]
    simp [front, Insert.headTemplate, Template.spaced_cons, target, ← String.append_assoc]
  · rw [extended, reading.append_silent _ _ updatesSilent,
      reading.silent_append _ _ ignoreSilent]
    simp [front, ignore, updates, Insert.headTemplate, Template.spaced_cons, target,
      inline_ignoreTemplate, inline_upsertTemplate, ← String.append_assoc]

theorem read_extended {k : Kind} (d : Draft k) :
    Extended config d.extra (read (.ofFragments (d.base.fragments config)))
      (read (.ofFragments (d.fragments config))) := by
  cases k with
  | select => exact read_paging reading config d
  | insert => exact read_conflict reading config d
  | update => exact read_bounds reading config _ _ d.extra
  | delete => exact read_bounds reading config _ _ d.extra

end Readings

-- Anchors and clauses in the order in which MySQL registers them.
def registrations : (k : Kind) → List (String × Clause (Draft k))
  | .select => [("order_by", Clause.limit), ("limit", Clause.offset)]
  | .insert => [("insert", Clause.ignore), ("values", Clause.upsert)]
  | .update => [("where", Clause.ordering), ("order_by", Clause.limit)]
  | .delete => [("where", Clause.ordering), ("order_by", Clause.limit)]

def register {S : Type} (R : Registry S) (r : String × Clause S) :
    Except RegistrationError (Registry S) :=
  R.insertAfter r.1 r.2

theorem registrations_succeed (k : Kind) :
    (registrations k).foldlM register (inherited k) = .ok (clauses k) := by
  cases k <;> rfl

def NoCount (count : Option Nat) : Prop := count = none ∨ count = some 0

def Extra.Idle : {k : Kind} → Extra k → Prop
  | .select, x => NoCount x.limit ∧ NoCount x.offset
  | .insert, x =>
    x.ignored = false ∧ ∀ entry ∈ x.updates.getD [], entry = .skip ∨ entry = .values ""
  | .update, x => (∀ name ∈ x.ordering, name = "") ∧ NoCount x.limit
  | .delete, x => (∀ name ∈ x.ordering, name = "") ∧ NoCount x.limit

theorem countSuffix_of_noCount {keyword : String} {count : Option Nat} (idle : NoCount count) :
    countSuffix keyword count = "" := by
  rcases idle with rfl | rfl <;> rfl

theorem orderingSuffix_of_nameless (config : Config) {names : List String}
    (nameless : ∀ name ∈ names, name = "") : orderingSuffix config names = "" := by
  have kept : names.filter (· ≠ "") = [] := by simpa using nameless
  rw [orderingSuffix, kept]

theorem updatesSuffix_of_idle (config : Config) {updates : Option (List UpdateColumn)}
    (idle : ∀ entry ∈ updates.getD [], entry = .skip ∨ entry = .values "") :
    updatesSuffix config updates = "" := by
  cases updates with
  | none => rfl
  | some entries =>
    have texts : entries.flatMap (assignmentTexts config) = [] := by
      rw [List.flatMap_eq_nil_iff]
      intro entry member
      rcases idle entry member with rfl | rfl <;> rfl
    rw [updatesSuffix, texts]

theorem Extended.eq_of_idle {config : Config} {k : Kind} {x : Extra k} {base extended : String}
    (h : Extended config x base extended) (idle : x.Idle) : extended = base := by
  cases k with
  | select => simpa [Extended, countSuffix_of_noCount idle.1, countSuffix_of_noCount idle.2] using h
  | insert =>
    obtain ⟨rest, rfl, rfl⟩ := h
    simp [idle.1, ignoreInfix, updatesSuffix_of_idle config idle.2]
  | update =>
    simpa [Extended, orderingSuffix_of_nameless config idle.1, countSuffix_of_noCount idle.2]
      using h
  | delete =>
    simpa [Extended, orderingSuffix_of_nameless config idle.1, countSuffix_of_noCount idle.2]
      using h

theorem draft_extends_base (config : Config) {k : Kind} (d : Draft k) :
    Extended config d.extra (d.base.toSql config) (Builder.mk d (.withConfig config)).toSql ∧
      Extended config d.extra (d.base.prepare config).text
        (Builder.mk d (.withConfig config)).prepare.text ∧
      (Builder.mk d (.withConfig config)).prepare.params = (d.base.prepare config).params := by
  have base : TwoReadings _ _ (d.base.toSql config) (d.base.prepare config) :=
    (d.base.clauses_gives config).twoReadings
  have extended : TwoReadings _ _ (Builder.mk d (.withConfig config)).toSql
      (Builder.mk d (.withConfig config)).prepare := (d.clauses_gives config).twoReadings
  refine ⟨?_, ?_, ?_⟩
  · rw [base.inline, extended.inline]
    exact read_extended Template.isReading_inline config d
  · rw [base.marked, extended.marked]
    exact read_extended (Template.isReading_marked config.placeholder 0) config d
  · rw [base.params, extended.params, Template.values_ofFragments, Template.values_ofFragments,
      Draft.values_fragments, Statement.values_fragments]

theorem mysql_text_extends_base_text (config : Config) (k : Kind) (table : String)
    (columns : List String) (edits : List (Draft.Edit k)) :
    let b := edits.foldl Builder.edit ((Grammar.withConfig config).build table columns k)
    let base :=
      (edits.filterMap Draft.Edit.base?).foldl Statement.edit (Statement.new table columns k)
    let extra := Extra.ofEdits k (edits.filterMap Draft.Edit.extra?)
    (registrations k).foldlM register (inherited k) = .ok (b.grammar.registry k) ∧
      b.draft.base = base ∧
      Extended config extra (base.toSql config) b.toSql ∧
      Extended config extra (base.prepare config).text b.prepare.text ∧
      b.prepare.params = (base.prepare config).params ∧
      (extra.Idle → b.toSql = base.toSql config ∧ b.prepare = base.prepare config) := by
  intro b base extra
  have draft : b = ⟨edits.foldl Draft.edit (Draft.new table columns k), .withConfig config⟩ :=
    Builder.run _ edits
  have baseRun : (edits.foldl Draft.edit (Draft.new table columns k)).base = base :=
    Draft.base_run _ edits
  have extraRun : (edits.foldl Draft.edit (Draft.new table columns k)).extra = extra :=
    Draft.extra_run table columns edits
  obtain ⟨text, marked, params⟩ :=
    draft_extends_base config (edits.foldl Draft.edit (Draft.new table columns k))
  rw [baseRun, extraRun, ← draft] at text marked
  rw [baseRun, ← draft] at params
  refine ⟨?_, ?_, text, marked, params, fun idle => ⟨text.eq_of_idle idle, ?_⟩⟩
  · rw [draft]
    exact registrations_succeed k
  · rw [draft]
    exact baseRun
  · have sameText : b.prepare.text = (base.prepare config).text := marked.eq_of_idle idle
    calc b.prepare = ⟨b.prepare.text, b.prepare.params⟩ := rfl
      _ = ⟨(base.prepare config).text, (base.prepare config).params⟩ := by rw [sameText, params]
      _ = base.prepare config := rfl

theorem idle_update_reads_as_base :
    Extra.Idle (k := .update) (Extra.ofEdits .update [.ordering [""], .limit (some 0)]) ∧
      (List.foldl Builder.edit ((Grammar.withConfig {}).build "t" [] .update)
          [.extra (.ordering [""]), .base (.condition (.raw "x")), .extra (.limit (some 0))]).toSql =
        Statement.toSql (k := .update) { table := "t", condition := some (.raw "x") } {} := by
  have idle : Extra.Idle (k := .update)
      (Extra.ofEdits .update [.ordering [""], .limit (some 0)]) := by
    refine ⟨?_, .inr rfl⟩
    intro name member
    exact List.mem_singleton.mp member
  exact ⟨idle, ((mysql_text_extends_base_text {} .update "t" []
    [.extra (.ordering [""]), .base (.condition (.raw "x")), .extra (.limit (some 0))]
    ).2.2.2.2.2 idle).1⟩

end Mysql

end SqlClauses
