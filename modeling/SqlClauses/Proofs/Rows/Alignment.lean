import SqlClauses.Proofs.Mysql.Extension
import SqlClauses.Proofs.Reference.Columns
import SqlClauses.Proofs.Reference.Named

set_option autoImplicit false

namespace SqlClauses

namespace Template

-- The text with each value written as `cell` says, given the number of values in front of it.
def readBy (cell : Nat → Value → String) : Nat → Template → String
  | _, [] => ""
  | earlier, .text s :: rest => s ++ readBy cell earlier rest
  | earlier, .value v :: rest => cell earlier v ++ readBy cell (earlier + 1) rest

variable (cell : Nat → Value → String)

theorem inline_eq_readBy (earlier : Nat) (t : Template) :
    t.inline = t.readBy (fun _ v => v.literal) earlier := by
  induction t generalizing earlier with
  | nil => rfl
  | cons p rest ih =>
    cases p with
    | text s => rw [inline_text_cons, readBy, ih]
    | value v => rw [inline_value_cons, readBy, ih]

theorem marked_eq_readBy (style : Placeholder) (earlier : Nat) (t : Template) :
    t.marked style earlier = t.readBy (fun n _ => style.mark (n + 1)) earlier := by
  induction t generalizing earlier with
  | nil => rfl
  | cons p rest ih =>
    cases p with
    | text s => rw [marked_text_cons, readBy, ih]
    | value v => rw [marked_value_cons, readBy, ih]

theorem readBy_append (earlier : Nat) (s t : Template) :
    (s ++ t).readBy cell earlier =
      s.readBy cell earlier ++ t.readBy cell (earlier + s.values.length) := by
  induction s generalizing earlier with
  | nil => simp [readBy, values]
  | cons p rest ih =>
    cases p with
    | text s => simp [readBy, values, ih, String.append_assoc]
    | value v => simp [readBy, values, ih, String.append_assoc, Nat.add_assoc, Nat.add_comm 1]

def readEach : Nat → List Template → List String
  | _, [] => []
  | earlier, t :: rest => t.readBy cell earlier :: readEach (earlier + t.values.length) rest

theorem readBy_join (separator : String) (earlier : Nat) (items : List Template) :
    (join separator items).readBy cell earlier =
      separator.intercalate (readEach cell earlier items) := by
  induction items generalizing earlier with
  | nil => rfl
  | cons t rest ih =>
    cases rest with
    | nil => simp [readEach]
    | cons u rest =>
      have next := ih (earlier + t.values.length)
      simp only [readEach] at next
      rw [join_cons_cons, readBy_append, readBy, next]
      simp [readEach, String.append_assoc]

end Template

namespace Insert

def rowCells (cell : Nat → Value → String) : Nat → List Value → List String
  | _, [] => []
  | earlier, v :: rest => cell earlier v :: rowCells cell (earlier + 1) rest

def cells (cell : Nat → Value → String) : Nat → List (List Value) → List (List String)
  | _, [] => []
  | earlier, row :: rest => rowCells cell earlier row :: cells cell (earlier + row.length) rest

def listText (items : List String) : String := "(" ++ ", ".intercalate items ++ ")"

def columnsText : List String → String
  | [] => ""
  | listed => " " ++ listText listed

def rowsText : List (List String) → String
  | [] => ""
  | rows => " VALUES " ++ ", ".intercalate (rows.map listText)

def pairedText (table : String) (listed : List String) (rows : List (List String)) : String :=
  " " ++ table ++ columnsText listed ++ rowsText rows

variable (cell : Nat → Value → String)

theorem readEach_values (earlier : Nat) (row : List Value) :
    Template.readEach cell earlier (row.map fun v => [Piece.value v]) =
      rowCells cell earlier row := by
  induction row generalizing earlier with
  | nil => rfl
  | cons v rest ih => simp [Template.readEach, Template.readBy, Template.values, rowCells, ih]

theorem readBy_rowTemplate (earlier : Nat) (row : List Value) :
    (rowTemplate row).readBy cell earlier = listText (rowCells cell earlier row) := by
  rw [rowTemplate, Template.readBy, Template.readBy_append, Template.readBy_join, readEach_values]
  simp [Template.readBy, listText, ← String.append_assoc]

theorem readEach_rows (earlier : Nat) (rows : List (List Value)) :
    Template.readEach cell earlier (rows.map rowTemplate) =
      (cells cell earlier rows).map listText := by
  induction rows generalizing earlier with
  | nil => rfl
  | cons row rest ih =>
    simp [Template.readEach, cells, readBy_rowTemplate, values_rowTemplate, ih]

theorem readBy_rowsTemplate (earlier : Nat) (rows : List (List Value)) :
    (Template.spaced [rowsTemplate rows]).readBy cell earlier =
      rowsText (cells cell earlier rows) := by
  cases rows with
  | nil => rfl
  | cons row rest =>
    have joined := readEach_rows cell earlier (row :: rest)
    simp only [Template.spaced_cons, rowsTemplate, Option.elim_some, Template.spaced_nil,
      List.append_nil, Template.readBy, Template.readBy_join, joined]
    simp [cells, rowsText, ← String.append_assoc]

def listed (config : Config) (s : Insert) : List String :=
  (s.columns.filter (· ≠ "")).map config.column

theorem targetTemplate_eq (config : Config) (s : Insert) :
    targetTemplate config s =
      [.text ("INTO " ++ config.column s.table ++ columnsText (s.listed config))] := by
  have written : config.column = Reference.column config.quote none := rfl
  rw [targetTemplate, Config.columns, Reference.columns, listed, written]
  cases s.columns.filter (· ≠ "") with
  | nil => simp [columnsText]
  | cons first more => simp [columnsText, listText, ← String.append_assoc]

theorem readBy_fragments (config : Config) (s : Insert) :
    (Template.ofFragments (fragments config s)).readBy cell 0 =
      "INSERT" ++ " INTO" ++
        pairedText (config.column s.table) (s.listed config) (cells cell 0 s.rows) := by
  have rows := readBy_rowsTemplate cell 0 s.rows
  have split : Template.ofFragments (fragments config s) =
      .text "INSERT" :: .text " " ::
        .text ("INTO " ++ config.column s.table ++ columnsText (s.listed config)) ::
          Template.spaced [rowsTemplate s.rows] := by
    simp [fragments, Template.ofFragments_some_cons, headTemplate, Template.spaced_cons,
      targetTemplate_eq]
  simp only [split, Template.readBy, rows]
  simp [pairedText, ← String.append_assoc]

theorem length_rowCells (earlier : Nat) (row : List Value) :
    (rowCells cell earlier row).length = row.length := by
  induction row generalizing earlier with
  | nil => rfl
  | cons v rest ih => simp [rowCells, ih]

theorem getElem?_rowCells (earlier i : Nat) (row : List Value) :
    (rowCells cell earlier row)[i]? = row[i]?.map (cell (earlier + i)) := by
  induction row generalizing earlier i with
  | nil => rfl
  | cons v rest ih =>
    cases i with
    | zero => rfl
    | succ i => simp [rowCells, ih, Nat.add_assoc, Nat.add_comm 1]

def entry {A : Type} (rows : List (List A)) (r i : Nat) : Option A :=
  rows[r]?.bind fun row => row[i]?

theorem length_of_mem_cells {rows : List (List Value)} {width : Nat}
    (wide : ∀ row ∈ rows, row.length = width) (earlier : Nat) :
    ∀ row ∈ cells cell earlier rows, row.length = width := by
  induction rows generalizing earlier with
  | nil => simp [cells]
  | cons row rest ih =>
    rw [List.forall_mem_cons] at wide
    rw [cells, List.forall_mem_cons, length_rowCells]
    exact ⟨wide.1, ih wide.2 _⟩

theorem entry_cells {rows : List (List Value)} {width : Nat}
    (wide : ∀ row ∈ rows, row.length = width) (earlier r i : Nat) :
    entry (cells cell earlier rows) r i =
      (entry rows r i).map (cell (earlier + (r * width + i))) := by
  induction rows generalizing earlier r with
  | nil => rfl
  | cons row rest ih =>
    rw [List.forall_mem_cons] at wide
    cases r with
    | zero => simp [entry, cells, getElem?_rowCells]
    | succ r =>
      have later := ih wide.2 (earlier + row.length) r
      have place : earlier + row.length + (r * width + i) =
          earlier + ((r + 1) * width + i) := by
        rw [wide.1, Nat.succ_mul]
        omega
      rw [place] at later
      simpa [entry, cells] using later

theorem getElem?_flatten_rows {A : Type} {rows : List (List A)} {width i : Nat}
    (wide : ∀ row ∈ rows, row.length = width) (within : i < width) (r : Nat) :
    rows.flatten[r * width + i]? = entry rows r i := by
  induction rows generalizing r with
  | nil => rfl
  | cons row rest ih =>
    rw [List.forall_mem_cons] at wide
    rw [List.flatten_cons]
    cases r with
    | zero =>
      rw [Nat.zero_mul, Nat.zero_add, List.getElem?_append_left (wide.1 ▸ within)]
      rfl
    | succ r =>
      have place : (r + 1) * width + i = row.length + (r * width + i) := by
        rw [wide.1, Nat.succ_mul]
        omega
      rw [place, List.getElem?_append_right (by omega), Nat.add_sub_cancel_left, ih wide.2]
      rfl

structure Paired (s : Insert) : Prop where
  columns : s.columns ≠ []
  rows : ∀ row ∈ s.rows, row.length = s.columns.length

-- The i-th listed column is the i-th that was given. The cell under it is, in each row, the cell of
-- the value that was given with that column, and so is the parameter.
structure LinesUp (config : Config) (s : Insert) : Prop where
  listed : s.listed config = s.columns.map config.column
  width : ∀ cell, ∀ row ∈ cells cell 0 s.rows, row.length = (s.listed config).length
  cell : ∀ cell r i, entry (cells cell 0 s.rows) r i =
    (entry s.rows r i).map (cell (r * (s.listed config).length + i))
  param : ∀ r i, i < (s.listed config).length →
    s.rows.flatten[r * (s.listed config).length + i]? = entry s.rows r i

theorem linesUp_iff (config : Config) {s : Insert} (paired : s.Paired) :
    s.LinesUp config ↔ "" ∉ s.columns := by
  constructor
  · intro linesUp
    have same := congrArg List.length linesUp.listed
    rw [listed, List.length_map, List.length_map] at same
    exact (Reference.length_named_iff s.columns).mp same
  · intro named
    have all := Reference.named_of_not_mem named
    have listed : s.listed config = s.columns.map config.column :=
      congrArg (List.map config.column) all
    have length : (s.listed config).length = s.columns.length := by rw [listed, List.length_map]
    constructor
    · exact listed
    · intro cell
      rw [length]
      exact length_of_mem_cells cell paired.rows 0
    · intro cell r i
      rw [length, entry_cells cell paired.rows, Nat.zero_add]
    · intro r i within
      rw [length] at within ⊢
      exact getElem?_flatten_rows paired.rows within r

def insertion (front back : String) (config : Config) (s : Insert)
    (cell : Nat → Value → String) : String :=
  "INSERT" ++ front ++ " INTO" ++
    pairedText (config.column s.table) (s.listed config) (cells cell 0 s.rows) ++ back

structure WritesCells (front back : String) (config : Config) (s : Insert) (text : String)
    (p : Prepared) : Prop where
  inline : text = insertion front back config s fun _ v => v.literal
  marked : p.text = insertion front back config s fun n _ => config.placeholder.mark (n + 1)
  params : p.params = s.rows.flatten

theorem writesCells (config : Config) (s : Insert) :
    s.WritesCells "" "" config (Statement.toSql (k := .insert) s config)
      (Statement.prepare (k := .insert) s config) := by
  have readings : TwoReadings (.ofFragments (fragments config s)) config.placeholder
      (Statement.toSql (k := .insert) s config) (Statement.prepare (k := .insert) s config) :=
    (clauses_gives config s).twoReadings
  constructor
  · rw [readings.inline, Template.inline_eq_readBy 0, readBy_fragments]
    simp [insertion]
  · rw [readings.marked, Template.marked_eq_readBy, readBy_fragments]
    simp [insertion]
  · rw [readings.params, Template.values_ofFragments]
    exact Statement.values_fragments config (k := .insert) s

end Insert

namespace Mysql

-- The extensions stand on either side of the text from INTO on.
theorem insertion_of_extended {config : Config} {x : Conflict} {s : Insert}
    {cell : Nat → Value → String} {extended : String}
    (h : Extended config (k := .insert) x (Insert.insertion "" "" config s cell) extended) :
    extended = Insert.insertion (ignoreInfix x.ignored) (updatesSuffix config x.updates) config s
      cell := by
  obtain ⟨rest, base, rfl⟩ := h
  rw [Insert.insertion, String.append_empty, String.append_empty, String.append_right_inj] at base
  rw [Insert.insertion, base]

theorem Draft.writesCells (config : Config) (d : Draft .insert) :
    Insert.WritesCells (ignoreInfix d.extra.ignored) (updatesSuffix config d.extra.updates) config
      d.base (Builder.mk d (.withConfig config)).toSql
      (Builder.mk d (.withConfig config)).prepare := by
  obtain ⟨text, marked, params⟩ := draft_extends_base config d
  have base := Insert.writesCells config d.base
  constructor
  · rw [base.inline] at text
    exact insertion_of_extended text
  · rw [base.marked] at marked
    exact insertion_of_extended marked
  · exact params.trans base.params

theorem values_stand_under_their_columns (config : Config) (d : Draft .insert) :
    let s : Insert := d.base
    let b := Builder.mk d (.withConfig config)
    s.WritesCells "" "" config (Statement.toSql (k := .insert) s config)
        (Statement.prepare (k := .insert) s config) ∧
      s.WritesCells (ignoreInfix d.extra.ignored) (updatesSuffix config d.extra.updates) config
        b.toSql b.prepare ∧
      (s.Paired →
        (s.LinesUp config ↔ "" ∉ s.columns) ∧
        ((∀ q ∈ config.quote, Reference.IsFree q) →
          (∀ name ∈ s.columns, ∃ path, Reference.Spells name path) →
            s.LinesUp config ∧
              Reference.readColumns config.quote (some (", ".intercalate (s.listed config))) =
                some s.columns)) := by
  intro s b
  refine ⟨s.writesCells config, d.writesCells config, fun paired => ?_⟩
  have linesUp := Insert.linesUp_iff config paired
  refine ⟨linesUp, fun free plain => ?_⟩
  have named : "" ∉ s.columns := by
    intro member
    obtain ⟨path, spells⟩ := plain "" member
    exact absurd (Reference.isPlain_of_spells spells) (by decide)
  have all : s.columns.filter (· ≠ "") = s.columns := Reference.named_of_not_mem named
  have read := Reference.readColumns_columns free fun name member => .inr (plain name member)
  obtain ⟨first, more, shape⟩ := List.exists_cons_of_ne_nil paired.columns
  have written : Reference.columns config.quote s.columns =
      some (", ".intercalate (s.listed config)) := by
    rw [Reference.columns, Insert.listed, all, shape]
    rfl
  rw [written, all] at read
  exact ⟨linesUp.mpr named, read⟩

theorem reserved_columns_line_up :
    let config : Config := { quote := some '\x60', placeholder := .numbered }
    let s : Insert :=
      { table := "t"
        columns := ["key", "a.Order"]
        rows := [[.int 1, .null], [.text "x", .bool true]] }
    let d : Draft .insert := ⟨s, { ignored := true }⟩
    (Builder.mk d (.withConfig config)).prepare.text =
        "INSERT IGNORE INTO t (\x60key\x60, a.\x60Order\x60) VALUES ($1, $2), ($3, $4)" ∧
      (Builder.mk d (.withConfig config)).prepare.params =
        [.int 1, .null, .text "x", .bool true] ∧
      s.LinesUp config ∧
      Reference.readColumns config.quote (some "\x60key\x60, a.\x60Order\x60") =
        some ["key", "a.Order"] := by
  intro config s d
  obtain ⟨-, written, aligned⟩ := values_stand_under_their_columns config d
  have paired : s.Paired := ⟨by decide, by decide⟩
  have free : ∀ q ∈ config.quote, Reference.IsFree q :=
    fun q same => Option.some.inj same ▸ by decide
  have plain : ∀ name ∈ s.columns, ∃ path, Reference.Spells name path := by
    rw [List.forall_mem_cons, List.forall_mem_singleton]
    exact ⟨⟨_, Reference.spells_parts (by decide)⟩, ⟨_, Reference.spells_parts (by decide)⟩⟩
  obtain ⟨linesUp, read⟩ := (aligned paired).2 free plain
  have listed : ", ".intercalate (s.listed config) = "\x60key\x60, a.\x60Order\x60" := by
    decide +kernel
  have text : Insert.insertion " IGNORE" "" config s (fun n _ => config.placeholder.mark (n + 1)) =
      "INSERT IGNORE INTO t (\x60key\x60, a.\x60Order\x60) VALUES ($1, $2), ($3, $4)" := by
    decide +kernel
  rw [listed] at read
  exact ⟨written.marked.trans text, written.params, linesUp, read⟩

-- The column without a name is not listed, and its value is written all the same.
theorem unnamed_column_leaves_its_value :
    let s : Insert := { table := "t", columns := ["a", ""], rows := [[.int 1, .int 2]] }
    s.Paired ∧
      Statement.toSql (k := .insert) s {} = "INSERT INTO t (a) VALUES (1, 2)" ∧
      ¬ s.LinesUp {} := by
  intro s
  have paired : s.Paired := ⟨by decide, by decide⟩
  refine ⟨paired, ?_, fun linesUp => ?_⟩
  · have text : Insert.insertion "" "" {} s (fun _ v => v.literal) =
        "INSERT INTO t (a) VALUES (1, 2)" := by decide +kernel
    exact (s.writesCells {}).inline.trans text
  · exact (Insert.linesUp_iff {} paired).mp linesUp (by decide)

end Mysql

end SqlClauses
