import SqlClauses.Proofs.Mysql.Extension
import SqlClauses.Proofs.Reference.Named
import SqlClauses.Proofs.Statement.Presence

set_option autoImplicit false

namespace SqlClauses

open Reference (named columns_named)

namespace Clause

theorem columnsTemplate_named (keyword : String) (config : Config) (names : List String) :
    columnsTemplate keyword config (named names) = columnsTemplate keyword config names := by
  rw [columnsTemplate, columnsTemplate, Config.columns, Config.columns, columns_named]

end Clause

namespace Select

def tidied (s : Select) : Select :=
  { s with tables := named s.tables, grouping := named s.grouping, ordering := named s.ordering }

def pruned (s : Select) : Select := { s.tidied with columns := named s.columns }

theorem fragments_tidied (config : Config) (s : Select) :
    fragments config s.tidied = fragments config s := by
  simp only [fragments, tidied, Clause.columnsTemplate_named]
  rfl

theorem fragments_eq_cons (config : Config) (s : Select) :
    fragments config s = some (headTemplate config s) :: (fragments config s).tail := rfl

theorem fragments_pruned (config : Config) (s : Select) :
    fragments config s.pruned =
      some (headTemplate config s.pruned) :: (fragments config s).tail := by
  rw [← fragments_tidied config s]
  rfl

theorem columnsText_of_ne_nil (config : Config) {columns : List String} (some : columns ≠ []) :
    columnsText config columns = ", ".intercalate (columns.map config.column) := by
  cases columns with
  | nil => exact absurd rfl some
  | cons name rest => rfl

theorem columnsText_ne_star (config : Config) {columns : List String} (some : columns ≠ [])
    (nameless : named columns = []) : columnsText config columns ≠ "*" := by
  intro star
  have texts : columns.map config.column = List.replicate columns.length "" := by
    refine List.eq_replicate_iff.mpr ⟨List.length_map _, fun text member => ?_⟩
    obtain ⟨name, listed, rfl⟩ := List.mem_map.mp member
    have empty : name = "" := by simpa using List.filter_eq_nil_iff.mp nameless name listed
    exact (Reference.column_eq_empty_iff config.quote name).mpr empty
  have filled : columns.map config.column ≠ [] := by simp [some]
  have length := length_intercalate_add_two filled
  rw [← columnsText_of_ne_nil config some, star, texts] at length
  have one : "*".length = 1 := rfl
  rw [widths_replicate] at length
  omega

theorem columnsText_named_iff (config : Config) (columns : List String) :
    columnsText config (named columns) = columnsText config columns ↔ "" ∉ columns := by
  refine ⟨fun same => ?_, fun all => by rw [Reference.named_of_not_mem all]⟩
  rw [← Reference.length_named_iff]
  by_cases some : columns = []
  · rw [some]
    rfl
  · by_cases nameless : named columns = []
    · rw [nameless] at same
      exact absurd same.symm (columnsText_ne_star config some nameless)
    · rw [columnsText_of_ne_nil config some, columnsText_of_ne_nil config nameless] at same
      have shorter : ((named columns).map config.column).Sublist (columns.map config.column) :=
        List.filter_sublist.map _
      have equal := eq_of_sublist_of_intercalate shorter (by simp [nameless]) same
      simpa using congrArg List.length equal

theorem inline_head_pruned_iff (config : Config) (s : Select) :
    (headTemplate config s.pruned).inline = (headTemplate config s).inline ↔ "" ∉ s.columns := by
  have text (s : Select) : (headTemplate config s).inline =
      "SELECT " ++ (if s.distinct then "DISTINCT " else "") ++ columnsText config s.columns := by
    simp [headTemplate]
  rw [text, text, ← columnsText_named_iff config]
  exact String.append_right_inj _

-- What stands behind the columns reads the same, so the columns decide.
theorem read_pruned_iff {read : Template → String} (reading : Template.IsReading read)
    (config : Config) (s : Select) (more : List (Option Template)) :
    read (.ofFragments (fragments config s.pruned ++ more)) =
      read (.ofFragments (fragments config s ++ more)) ↔ "" ∉ s.columns := by
  rw [fragments_pruned, fragments_eq_cons config s, List.cons_append, List.cons_append,
    Template.ofFragments_some_cons, Template.ofFragments_some_cons,
    reading.silent_append (headTemplate config s.pruned) _ rfl,
    reading.silent_append (headTemplate config s) _ rfl, List.tail_cons,
    ← inline_head_pruned_iff config]
  exact String.append_left_inj _

end Select

namespace Statement

variable {k : Kind}

def tidied : {k : Kind} → Statement k → Statement k
  | .select, s => Select.tidied s
  | .insert, s => { s with columns := named (Insert.columns s) }
  | .update, s => s
  | .delete, s => s

def pruned : {k : Kind} → Statement k → Statement k
  | .select, s => Select.pruned s
  | .insert, s => tidied (k := .insert) s
  | .update, s => s
  | .delete, s => s

def SelectsNamed : {k : Kind} → Statement k → Prop
  | .select, s => "" ∉ Select.columns s
  | .insert, _ => True
  | .update, _ => True
  | .delete, _ => True

theorem fragments_tidied (config : Config) (s : Statement k) :
    fragments config s.tidied = fragments config s := by
  cases k with
  | select => exact Select.fragments_tidied config s
  | insert =>
    simp only [fragments, Insert.fragments, tidied, Insert.targetTemplate, Config.columns,
      columns_named]
  | update | delete => rfl

theorem read_pruned_iff {read : Template → String} (reading : Template.IsReading read)
    (config : Config) (s : Statement k) :
    read (.ofFragments (fragments config s.pruned)) = read (.ofFragments (fragments config s)) ↔
      s.SelectsNamed := by
  cases k with
  | select =>
    have columns := Select.read_pruned_iff reading config s []
    rwa [List.append_nil, List.append_nil] at columns
  | insert => exact iff_of_true (by rw [pruned, fragments_tidied]) trivial
  | update | delete => exact iff_of_true rfl trivial

theorem values_pruned (s : Statement k) : s.pruned.values = s.values := by
  cases k <;> rfl

end Statement

namespace Mysql

def Bounds.tidied (x : Bounds) : Bounds := { x with ordering := named x.ordering }

def Extra.tidied : {k : Kind} → Extra k → Extra k
  | .select, x => x
  | .insert, x => x
  | .update, x => Bounds.tidied x
  | .delete, x => Bounds.tidied x

namespace Draft

variable {k : Kind}

def tidied (d : Draft k) : Draft k := ⟨d.base.tidied, d.extra.tidied⟩

def pruned (d : Draft k) : Draft k := ⟨d.base.pruned, d.extra.tidied⟩

theorem fragments_tidied (config : Config) (d : Draft k) :
    d.tidied.fragments config = d.fragments config := by
  have base := Statement.fragments_tidied config d.base
  cases k with
  | select =>
    simp only [fragments, tidied, base]
    rfl
  | insert =>
    obtain ⟨-, target⟩ := List.cons.inj base
    obtain ⟨target, -⟩ := List.cons.inj target
    simp only [fragments, tidied, target]
    rfl
  | update | delete =>
    simp only [fragments, tidied, base, Extra.tidied, Bounds.tidied, Clause.columnsTemplate_named]

theorem read_pruned_iff {read : Template → String} (reading : Template.IsReading read)
    (config : Config) (d : Draft k) :
    read (.ofFragments (d.pruned.fragments config)) = read (.ofFragments (d.fragments config)) ↔
      d.base.SelectsNamed := by
  cases k with
  | select => exact Select.read_pruned_iff reading config d.base _
  | insert | update | delete =>
    exact iff_of_true (congrArg (read ∘ Template.ofFragments) (fragments_tidied config d)) trivial

end Draft

end Mysql

structure AlikeIff (condition : Prop) (text written : String) (p q : Prepared) : Prop where
  text : text = written ↔ condition
  prepared : p = q ↔ condition
  params : p.params = q.params

theorem TwoReadings.alikeIff {t u : Template} {style : Placeholder} {text written : String}
    {p q : Prepared} (first : TwoReadings t style text p) (second : TwoReadings u style written q)
    (values : t.values = u.values) {condition : Prop}
    (reads : ∀ read, Template.IsReading read → (read t = read u ↔ condition)) :
    AlikeIff condition text written p q := by
  have params : p.params = q.params := by rw [first.params, second.params, values]
  refine ⟨?_, ?_, params⟩
  · rw [first.inline, second.inline]
    exact reads _ Template.isReading_inline
  · rw [← reads _ (Template.isReading_marked style 0), ← first.marked, ← second.marked]
    refine ⟨congrArg Prepared.text, fun text => ?_⟩
    cases p
    cases q
    exact congrArg₂ Prepared.mk text params

structure Spaced {S : Type} (R : Registry S) (config : Config) (s : S) : Prop where
  text : R.toSql config s = " ".intercalate ((R.shown (.inline config) s).map Prod.snd)
  marked : (R.prepare config s).text =
    " ".intercalate ((R.shown (.parameterized config) s).map Prod.snd)
  nonempty : ∀ cx, ∀ entry ∈ R.shown cx s, entry.2 ≠ ""

theorem Template.ReadsAs.text_eq {s text : String} (reads : Template.ReadsAs [.text s] text) :
    text = s := by
  rcases reads with rfl | ⟨style, earlier, rfl⟩ <;> simp

namespace Registry

theorem mem_visible {entries : List (String × Option String)} {name text : String} :
    (name, text) ∈ visible entries ↔ (name, some text) ∈ entries ∧ text ≠ "" := by
  constructor
  · intro member
    obtain ⟨⟨other, written⟩, listed, kept⟩ := List.mem_filterMap.mp member
    obtain ⟨kept, filtered, same⟩ := Option.map_eq_some_iff.mp kept
    cases same
    obtain ⟨rfl, nonempty⟩ := Option.filter_eq_some_iff.mp filtered
    exact ⟨listed, of_decide_eq_true nonempty⟩
  · rintro ⟨listed, nonempty⟩
    exact List.mem_filterMap.mpr ⟨_, listed, by simp [nonempty]⟩

theorem exists_mem_zip {A B : Type} {related : A → B → Prop} {xs : List A} {ys : List B}
    (all : List.Forall₂ related xs ys) {names : List String} {name : String} {x : A}
    (member : (name, x) ∈ names.zip xs) : ∃ y, (name, y) ∈ names.zip ys ∧ related x y := by
  induction all generalizing names with
  | nil => simp at member
  | cons head _ ih =>
    cases names with
    | nil => simp at member
    | cons first names =>
      rcases List.mem_cons.mp member with here | later
      · cases here
        exact ⟨_, List.mem_cons_self, head⟩
      · obtain ⟨y, listed, related⟩ := ih later
        exact ⟨y, List.mem_cons_of_mem _ listed, related⟩

variable {S : Type} {R : Registry S} {cx : Context} {s : S} {fragments : List (Option Template)}

theorem Gives.mem_shown_iff (gives : R.Gives cx.config s fragments) (distinct : R.names.Nodup)
    {name : String} {kept : Option String}
    (member : (name, kept.map fun text => [.text text]) ∈ R.names.zip fragments) {text : String} :
    (name, text) ∈ R.shown cx s ↔ kept = some text := by
  obtain ⟨written, listed, reads⟩ := exists_mem_zip gives.readings member
  have names : (R.names.zip (R.written cx s)).map Prod.fst = R.names :=
    List.map_fst_zip (Nat.le_of_eq (R.length_written cx s).symm)
  -- One clause alone has that name.
  have unique {other : Option String} (again : (name, other) ∈ R.names.zip (R.written cx s)) :
      other = written :=
    congrArg Prod.snd (List.inj_on_of_nodup_map (names ▸ distinct) again listed rfl)
  rw [shown, mem_visible]
  cases kept with
  | none =>
    cases reads
    exact iff_of_false (fun shows => Option.some_ne_none text (unique shows.1))
      (Option.some_ne_none text).symm
  | some given =>
    cases reads with
    | some reads =>
      have nonempty := reads.ne_empty (opens_of_forall₂ gives _ (List.of_mem_zip member).2)
      rw [reads.text_eq] at unique listed nonempty
      constructor
      · exact fun shows => (unique shows.1).symm
      · intro same
        cases same
        exact ⟨listed, nonempty⟩

end Registry

theorem Spaced.of_shown {S : Type} (R : Registry S) (config : Config) (s : S) :
    Spaced R config s where
  text := R.toSql_eq_shown config s
  marked := congrArg Prepared.text (R.prepare_eq_shown config s)
  nonempty _ _ member := (Registry.mem_visible.mp member).2

structure ListClause where
  clause : String
  opening : String
  names : List String
  otherwise : Option String := none

namespace ListClause

def text (config : Config) (list : ListClause) : Option String :=
  match named list.names with
  | [] => list.otherwise
  | kept => some (list.opening ++ ", ".intercalate (kept.map config.column))

def Shown (config : Config) (lists : List ListClause) (entries : List (String × String)) : Prop :=
  ∀ list ∈ lists, ∀ text, (list.clause, text) ∈ entries ↔ list.text config = some text

def ofColumns (clause keyword : String) (names : List String) : ListClause :=
  ⟨clause, keyword ++ " ", names, none⟩

theorem template_ofColumns (clause keyword : String) (config : Config)
    (names : List String) :
    (text config (ofColumns clause keyword names)).map (fun text => [Piece.text text]) =
      Clause.columnsTemplate keyword config names := by
  rw [Clause.columnsTemplate, Config.columns, Reference.columns, text, ofColumns, named]
  cases names.filter (· ≠ "") <;> rfl

end ListClause

namespace Select

def lists (s : Select) : List ListClause :=
  [.ofColumns "from" "FROM" s.tables, .ofColumns "group_by" "GROUP BY" s.grouping,
    .ofColumns "order_by" "ORDER BY" s.ordering]

def opening (s : Select) : String := "SELECT " ++ if s.distinct then "DISTINCT " else ""

def selection (s : Select) : ListClause :=
  ⟨"select", s.opening, s.columns, some (s.opening ++ "*")⟩

theorem text_selection (config : Config) (s : Select) :
    s.selection.text config = some (s.opening ++ columnsText config (named s.columns)) := by
  rw [ListClause.text, selection]
  cases named s.columns <;> rfl

end Select

namespace Statement

def lists : {k : Kind} → Statement k → List ListClause
  | .select, s => Select.lists s
  | .insert, _ => []
  | .update, _ => []
  | .delete, _ => []

def selections : {k : Kind} → Statement k → List ListClause
  | .select, s => [Select.selection s]
  | .insert, _ => []
  | .update, _ => []
  | .delete, _ => []

end Statement

def Mysql.Draft.lists : {k : Kind} → Draft k → List ListClause
  | .select, d => Select.lists d.base
  | .insert, _ => []
  | .update, d => [.ofColumns "order_by" "ORDER BY" d.extra.ordering]
  | .delete, d => [.ofColumns "order_by" "ORDER BY" d.extra.ordering]

-- A run shows these lists without their empty names, and the selections too if they have none.
structure ShowsNamed (config : Config) (lists selections : List ListClause) (condition : Prop)
    (entries : List (String × String)) : Prop where
  lists : ListClause.Shown config lists entries
  selections : ListClause.Shown config selections entries ↔ condition

section Shown

variable {S : Type} {R : Registry S} {cx : Context} {s : S} {fragments : List (Option Template)}

theorem Registry.Gives.shown_lists (gives : R.Gives cx.config s fragments)
    (distinct : R.names.Nodup) {lists : List ListClause}
    (held : ∀ list ∈ lists, (list.clause, (list.text cx.config).map fun text => [.text text]) ∈
      R.names.zip fragments) : ListClause.Shown cx.config lists (R.shown cx s) :=
  fun list member _ => gives.mem_shown_iff distinct (held list member)

theorem Registry.Gives.shown_selection_iff (gives : R.Gives cx.config s fragments)
    (distinct : R.names.Nodup) {selected : Select}
    (held : ("select", some (Select.headTemplate cx.config selected)) ∈ R.names.zip fragments) :
    ListClause.Shown cx.config [selected.selection] (R.shown cx s) ↔ "" ∉ selected.columns := by
  let written := selected.opening ++ Select.columnsText cx.config selected.columns
  have given : ("select", (some written).map fun text => [.text text]) ∈ R.names.zip fragments :=
    held
  have shows {text : String} : ("select", text) ∈ R.shown cx s ↔ some written = some text :=
    gives.mem_shown_iff distinct given
  rw [ListClause.Shown, List.forall_mem_singleton, Select.text_selection,
    ← Select.columnsText_named_iff cx.config]
  constructor
  · intro same
    have here := (same _).mp (shows.mpr rfl)
    exact (String.append_right_inj _).mp (Option.some.inj here)
  · intro same text
    rw [same]
    exact shows

theorem Registry.Gives.showsNamed_select (gives : R.Gives cx.config s fragments)
    (distinct : R.names.Nodup) {selected : Select}
    (held : ∀ entry ∈ Select.clauses.names.zip (Select.fragments cx.config selected),
      entry ∈ R.names.zip fragments) :
    ShowsNamed cx.config selected.lists [selected.selection] ("" ∉ selected.columns)
      (R.shown cx s) := by
  refine ⟨gives.shown_lists distinct ?_,
    gives.shown_selection_iff distinct (held _ (List.mem_of_getElem? (i := 0) rfl))⟩
  simp only [Select.lists, List.forall_mem_cons, ListClause.template_ofColumns]
  exact ⟨held _ (List.mem_of_getElem? (i := 1) rfl), held _ (List.mem_of_getElem? (i := 4) rfl),
    held _ (List.mem_of_getElem? (i := 6) rfl), List.forall_mem_nil _⟩

end Shown

theorem ShowsNamed.of_lists {config : Config} {lists : List ListClause}
    {entries : List (String × String)} (shown : ListClause.Shown config lists entries) :
    ShowsNamed config lists [] True entries :=
  ⟨shown, iff_of_true (List.forall_mem_nil _) trivial⟩

theorem Statement.showsNamed {k : Kind} (s : Statement k) (cx : Context) :
    ShowsNamed cx.config s.lists s.selections s.SelectsNamed ((clauses k).shown cx s) := by
  have gives := clauses_gives cx.config s
  have distinct : (clauses k).names.Nodup := by cases k <;> decide
  cases k with
  | select => exact gives.showsNamed_select distinct fun _ => id
  | insert | update | delete => exact .of_lists (List.forall_mem_nil _)

namespace Mysql

theorem Draft.showsNamed {k : Kind} (d : Draft k) (cx : Context) :
    ShowsNamed cx.config d.lists d.base.selections d.base.SelectsNamed
      ((clauses k).shown cx d) := by
  have gives := d.clauses_gives cx.config
  have distinct : (clauses k).names.Nodup := by cases k <;> decide
  cases k with
  | select =>
    refine gives.showsNamed_select distinct fun entry member => ?_
    -- The clauses of the base come first.
    have zipped : (clauses .select).names.zip (d.fragments cx.config) =
        Select.clauses.names.zip (Select.fragments cx.config d.base) ++
          ["limit", "offset"].zip [Clause.countTemplate "LIMIT" d.extra.limit,
            Clause.countTemplate "OFFSET" d.extra.offset] := rfl
    rw [zipped]
    exact List.mem_append_left _ member
  | insert => exact .of_lists (List.forall_mem_nil _)
  | update =>
    refine .of_lists (gives.shown_lists distinct (List.forall_mem_singleton.mpr ?_))
    rw [ListClause.template_ofColumns]
    exact List.mem_of_getElem? (i := 3) rfl
  | delete =>
    refine .of_lists (gives.shown_lists distinct (List.forall_mem_singleton.mpr ?_))
    rw [ListClause.template_ofColumns]
    exact List.mem_of_getElem? (i := 2) rfl

theorem empty_names_show_only_as_columns (config : Config) {k : Kind} (d : Draft k) :
    let s := d.base
    let b (d : Draft k) := Builder.mk d (.withConfig config)
    (s.tidied.toSql config = s.toSql config ∧ s.tidied.prepare config = s.prepare config) ∧
    ((b d.tidied).toSql = (b d).toSql ∧ (b d.tidied).prepare = (b d).prepare) ∧
    AlikeIff s.SelectsNamed (s.pruned.toSql config) (s.toSql config) (s.pruned.prepare config)
      (s.prepare config) ∧
    AlikeIff s.SelectsNamed (b d.pruned).toSql (b d).toSql (b d.pruned).prepare (b d).prepare ∧
    (Spaced (Statement.clauses k) config s ∧ Spaced (clauses k) config d) ∧
    (∀ name, config.column name = "" ↔ name = "") ∧
    ∀ cx : Context,
      ShowsNamed cx.config s.lists s.selections s.SelectsNamed ((Statement.clauses k).shown cx s) ∧
        ShowsNamed cx.config d.lists s.selections s.SelectsNamed ((clauses k).shown cx d) := by
  intro s b
  have base (s : Statement k) : TwoReadings _ _ (s.toSql config) (s.prepare config) :=
    (s.clauses_gives config).twoReadings
  have whole (d : Draft k) : TwoReadings _ _ (b d).toSql (b d).prepare :=
    (d.clauses_gives config).twoReadings
  have baseTidied := (base s.tidied).alikeIff (base s) (by rw [s.fragments_tidied])
    fun read _ => iff_true_intro (congrArg (read ∘ Template.ofFragments) (s.fragments_tidied config))
  have tidied := (whole d.tidied).alikeIff (whole d) (by rw [d.fragments_tidied])
    fun read _ => iff_true_intro (congrArg (read ∘ Template.ofFragments) (d.fragments_tidied config))
  refine ⟨⟨baseTidied.text.mpr trivial, baseTidied.prepared.mpr trivial⟩,
    ⟨tidied.text.mpr trivial, tidied.prepared.mpr trivial⟩, ?base, ?whole,
    ⟨.of_shown _ config s, .of_shown _ config d⟩,
    Reference.column_eq_empty_iff config.quote, fun cx => ⟨s.showsNamed cx, d.showsNamed cx⟩⟩
  case base =>
    refine (base s.pruned).alikeIff (base s) ?_ fun read reading => s.read_pruned_iff reading config
    rw [Template.values_ofFragments, Template.values_ofFragments, Statement.values_fragments,
      Statement.values_fragments, s.values_pruned]
  case whole =>
    refine (whole d.pruned).alikeIff (whole d) ?_ fun read reading =>
      d.read_pruned_iff reading config
    rw [Template.values_ofFragments, Template.values_ofFragments, Draft.values_fragments,
      Draft.values_fragments]
    exact s.values_pruned

theorem unnamed_orderings_change_nothing :
    let s : Select :=
      { columns := ["id"], tables := ["", "users"], grouping := [""], ordering := ["", "name", ""] }
    let d : Draft .select := ⟨s, { limit := some 5 }⟩
    let b := Builder.mk d (.withConfig Dialect.mysql.config)
    s.pruned = { columns := ["id"], tables := ["users"], ordering := ["name"] } ∧
      b.toSql = "SELECT id FROM users ORDER BY name LIMIT 5" ∧
      (Builder.mk d.pruned (.withConfig Dialect.mysql.config)).toSql = b.toSql ∧
      ("order_by", "ORDER BY name") ∈ (clauses .select).shown (.inline Dialect.mysql.config) d := by
  intro s d b
  obtain ⟨-, -, -, alike, -, -, shows⟩ := empty_names_show_only_as_columns Dialect.mysql.config d
  have all : Statement.SelectsNamed (k := .select) s := by
    change "" ∉ ["id"]
    decide
  have ordering := (shows (.inline Dialect.mysql.config)).2.lists
    (.ofColumns "order_by" "ORDER BY" s.ordering) (by simp [d, Draft.lists, Select.lists])
  exact ⟨rfl, by decide +kernel, alike.text.mpr all, (ordering _).mpr (by decide +kernel)⟩

-- Two blanks stand where the last item should be.
theorem unnamed_column_leaves_a_comma :
    let s : Select := { columns := ["a", ""], tables := ["t"] }
    Statement.toSql (k := .select) s {} = "SELECT a,  FROM t" ∧
      Statement.toSql (k := .select) s.pruned {} = "SELECT a FROM t" ∧
      Statement.toSql (k := .select) s.pruned {} ≠ Statement.toSql (k := .select) s {} := by
  intro s
  have text : Statement.toSql (k := .select) s {} = "SELECT a,  FROM t" := by decide +kernel
  have pruned : Statement.toSql (k := .select) s.pruned {} = "SELECT a FROM t" := by
    decide +kernel
  refine ⟨text, pruned, ?_⟩
  rw [text, pruned]
  decide

end Mysql

end SqlClauses
