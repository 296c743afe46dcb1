import SqlClauses.Proofs.Rows.Literal
import SqlClauses.Proofs.Statement.Calls
import SqlClauses.Proofs.Statement.Fragments

set_option autoImplicit false

namespace SqlClauses

namespace Decoding

open Syntax (Boundary)

section

variable {A : Type} (item : List Char → Option (A × List Char))

def separated : Nat → List Char → Option (List A × List Char)
  | 0, _ => none
  | fuel + 1, input => do
    let (a, rest) ← item input
    match rest with
    | ',' :: ' ' :: more => do
      let (items, later) ← separated fuel more
      some (a :: items, later)
    | _ => some ([a], rest)

variable {item} (text : A → List Char)

-- Each item must be read in front of the separator and in front of what is behind the last one.
theorem separated_reads (a : A) (items : List A)
    (reads : ∀ b ∈ a :: items, ∀ rest, Boundary rest → item (text b ++ rest) = some (b, rest))
    {rest : List Char} (boundary : Boundary rest) (ends : Quoted.Closes ',' rest) (fuel : Nat)
    (enough : items.length < fuel) :
    separated item fuel ([',', ' '].intercalate ((a :: items).map text) ++ rest) =
      some (a :: items, rest) := by
  induction items generalizing a fuel with
  | nil =>
    cases fuel with
    | zero => omega
    | succ fuel =>
      have first := reads a (by simp) rest boundary
      have stopped : ∀ more, rest ≠ ',' :: ' ' :: more := by
        rintro more rfl
        exact ends rfl
      simp [separated, first]
  | cons next items ih =>
    cases fuel with
    | zero => omega
    | succ fuel =>
      simp only [List.length_cons] at enough
      have later := ih next (fun b member => reads b (by simp_all)) fuel (by omega)
      have first := reads a (by simp)
        (',' :: ' ' :: ([',', ' '].intercalate ((next :: items).map text) ++ rest))
        (by simp [Boundary])
      simp only [List.map_cons] at later first
      simp [separated, first, later]

theorem length_intercalate (a : A) (items : List A) :
    items.length ≤ ([',', ' '].intercalate ((a :: items).map text)).length := by
  induction items generalizing a with
  | nil => simp
  | cons next items ih =>
    have more := ih next
    simp only [List.map_cons, List.intercalate_cons_cons, List.length_append,
      List.length_cons] at more ⊢
    omega

end

def row : List Char → Option (List Value × List Char)
  | '(' :: ')' :: rest => some ([], rest)
  | '(' :: rest => do
    let (values, later) ← separated literal (rest.length + 1) rest
    match later with
    | ')' :: later => some (values, later)
    | _ => none
  | _ => none

def rows (clause : String) : Option (List (List Value)) :=
  match clause.toList with
  | 'V' :: 'A' :: 'L' :: 'U' :: 'E' :: 'S' :: ' ' :: rest =>
    match separated row (rest.length + 1) rest with
    | some (rows, []) => some rows
    | _ => none
  | _ => none

theorem row_of_separated {input later : List Char} {values : List Value}
    (read : separated literal (input.length + 1) input = some (values, ')' :: later)) :
    row ('(' :: input) = some (values, later) := by
  cases input with
  | nil => simp [separated, literal, integer] at read
  | cons c rest =>
    by_cases closed : c = ')'
    · -- No literal begins with a parenthesis.
      subst closed
      simp [separated, literal, integer] at read
    · simp only [List.length_cons] at read
      simp [row, closed, read]

theorem row_reads {values : List Value} (exact : ∀ v ∈ values, v.IsExact) (rest : List Char) :
    row ((Insert.rowTemplate values).inline.toList ++ rest) = some (values, rest) := by
  cases values with
  | nil => simp [Insert.rowTemplate, row]
  | cons v more =>
    let text : Value → List Char := fun v => v.literal.toList
    have written : (Insert.rowTemplate (v :: more)).inline.toList ++ rest =
        '(' :: ([',', ' '].intercalate ((v :: more).map text) ++ ')' :: rest) := by
      simp [Insert.rowTemplate, Template.inline_join, text, Function.comp_def]
    have close : Boundary (')' :: rest) := by simp [Boundary]
    have ends : Quoted.Closes ',' (')' :: rest) := by simp [Quoted.Closes]
    have enough := length_intercalate text v more
    rw [written]
    refine row_of_separated (separated_reads text v more ?_ close ends _ ?_)
    · exact fun w member _ boundary => literal_reads (exact w member) boundary
    · rw [List.length_append]
      omega

theorem rows_read {written : List (List Value)} (nonempty : written ≠ [])
    (exact : ∀ row ∈ written, ∀ v ∈ row, v.IsExact) :
    ∃ t, Insert.rowsTemplate written = some t ∧ rows t.inline = some written := by
  obtain ⟨first, more, rfl⟩ := List.exists_cons_of_ne_nil nonempty
  let text : List Value → List Char := fun values => (Insert.rowTemplate values).inline.toList
  have enough := length_intercalate text first more
  have each : ∀ values ∈ first :: more, ∀ rest, Boundary rest →
      row (text values ++ rest) = some (values, rest) :=
    fun values member rest _ => row_reads (exact values member) rest
  have read := separated_reads text first more each .nil (by simp [Quoted.Closes])
    ([',', ' '].intercalate ((first :: more).map text)).length.succ (by omega)
  refine ⟨_, rfl, ?_⟩
  have clause : Template.inline (.text "VALUES " ::
      Template.join ", " ((first :: more).map Insert.rowTemplate)) =
        "VALUES " ++ String.ofList ([',', ' '].intercalate ((first :: more).map text)) := by
    rw [Template.inline_text_cons, Template.inline_join, ← String.toList_inj]
    simp [text, Function.comp_def]
  rw [List.append_nil] at read
  rw [clause]
  generalize [',', ' '].intercalate ((first :: more).map text) = input at read
  simp [rows, read]

end Decoding

def Insert.Edit.addedRows : Insert.Edit → List (List Value)
  | .columns _ => []
  | .row values => [values]
  | .rows more => more

namespace Insert

theorem rows_run (s : Insert) (edits : List Edit) :
    (edits.foldl edit s).rows = s.rows ++ edits.flatMap Edit.addedRows := by
  apply Statement.collected_by_run edit (fun s => s.rows)
  intro s e
  cases e <;> simp [edit, Edit.addedRows]

theorem run_values (config : Config) (s : Insert) :
    (values.renderer s).runFrom (.inline config) =
      ((rowsTemplate s.rows).map Template.inline, .inline config) := by
  simp [Render.runFrom, values_eq, Clause.run_ofTemplate_inline]

theorem inline_rows_decode (config : Config) (table : String) (columns : List String)
    (edits : List Edit) :
    let s := edits.foldl edit { table := table, columns := columns }
    let rows := edits.flatMap Edit.addedRows
    rows ≠ [] → (∀ row ∈ rows, ∀ v ∈ row, v.IsExact) →
      ∃ text, (values.renderer s).runFrom (.inline config) = (some text, .inline config) ∧
        Statement.toSql (k := .insert) s config =
          "INSERT " ++ (targetTemplate config s).inline ++ " " ++ text ∧
        Decoding.rows text = some rows ∧
        ∀ (settings : Config) (other : Insert), (∀ row ∈ other.rows, ∀ v ∈ row, v.IsExact) →
          ((values.renderer other).runFrom (.inline settings)).1 = some text →
            other.rows = rows := by
  intro s rows nonempty exact
  have added : s.rows = rows := rows_run _ edits
  obtain ⟨t, written, read⟩ := Decoding.rows_read nonempty exact
  refine ⟨t.inline, ?_, ?_, read, fun settings other otherExact same => ?_⟩
  · rw [run_values, added, written]
    rfl
  · have readings := (Statement.clauses_gives config (k := .insert) s).twoReadings
    have text : Statement.toSql (k := .insert) s config = _ := readings.inline
    rw [text]
    simp [Statement.fragments, fragments, added, written, Template.ofFragments, headTemplate,
      ← String.append_assoc]
  · rw [run_values] at same
    obtain ⟨u, template, sameText⟩ := Option.map_eq_some_iff.mp same
    have otherNonempty : other.rows ≠ [] := by
      intro empty
      rw [empty] at template
      cases template
    obtain ⟨u', template', otherRead⟩ := Decoding.rows_read otherNonempty otherExact
    obtain rfl : u = u' := Option.some.inj (template.symm.trans template')
    rw [sameText, read] at otherRead
    exact (Option.some.inj otherRead).symm

theorem hard_rows_decode :
    let edits : List Edit :=
      [.row [.int Int64.minValue, .text "', ('", .text "", .blob []],
        .rows [[], [.null, .bool true, .blob [0x27, 0xFF], .text "X'27'"]]]
    let s := edits.foldl edit { table := "t", columns := [] }
    let clause := "VALUES (-9223372036854775808, ''', (''', '', X''), " ++
      "(), (NULL, TRUE, X'27FF', 'X''27''')"
    ((values.renderer s).runFrom (.inline {})).1 = some clause ∧
      Decoding.rows clause = some (edits.flatMap Edit.addedRows) := by
  intro edits s clause
  have exact : ∀ row ∈ edits.flatMap Edit.addedRows, ∀ v ∈ row, v.IsExact := by
    simp [edits, Edit.addedRows, Value.IsExact]
  obtain ⟨text, written, -, read, -⟩ :=
    inline_rows_decode {} "t" [] edits (by simp [edits, Edit.addedRows]) exact
  have shape : ((values.renderer s).runFrom (.inline {})).1 = some clause := by decide +kernel
  refine ⟨shape, ?_⟩
  rw [written] at shape
  rw [← Option.some.inj shape]
  exact read

end Insert

end SqlClauses
