import SqlClauses.Config.Basic
import SqlClauses.Proofs.Reference.Quoting

set_option autoImplicit false

namespace SqlClauses.Reference

def splitList : List Char → List (List Char)
  | [] => [[]]
  | ',' :: ' ' :: rest => [] :: splitList rest
  | c :: rest => (splitList rest).modifyHead (c :: ·)

def readReference (quote : Option Char) (text : List Char) : Option String :=
  match quote with
  | none => some (String.ofList text)
  | some q => do
    let path ← (split q text).mapM (unquote q)
    return String.ofList (['.'].intercalate path)

def readColumns (quote : Option Char) : Option String → Option (List String)
  | none => some []
  | some text => (splitList text.toList).mapM (readReference quote)

theorem intercalate_append {A : Type} (separator : List A) {front back : List (List A)}
    (first : front ≠ []) (second : back ≠ []) :
    separator.intercalate (front ++ back) =
      separator.intercalate front ++ (separator ++ separator.intercalate back) := by
  induction front with
  | nil => exact absurd rfl first
  | cons x front ih =>
    cases front with
    | nil => simp [List.intercalate_cons_of_ne_nil second]
    | cons y front =>
      have later := ih (by simp)
      rw [List.cons_append] at later
      rw [List.cons_append, List.cons_append, List.intercalate_cons_cons, later,
        List.intercalate_cons_cons, List.append_assoc, List.append_assoc, List.append_assoc]

theorem mem_intercalate {A : Type} {separator : List A} {items : List (List A)} {a : A}
    (member : a ∈ separator.intercalate items) : a ∈ separator ∨ ∃ item ∈ items, a ∈ item := by
  induction items with
  | nil => cases member
  | cons x items ih =>
    cases items with
    | nil => exact .inr ⟨x, by simp, by simpa using member⟩
    | cons y items =>
      rw [List.intercalate_cons_cons, List.mem_append, List.mem_append] at member
      rcases member with (here | between) | later
      · exact .inr ⟨x, by simp, here⟩
      · exact .inl between
      · rcases ih later with between | ⟨item, listed, inside⟩
        · exact .inl between
        · exact .inr ⟨item, by simp [listed], inside⟩

theorem Spells.qualified {table column : String} {path names : List (List Char)}
    (first : Spells table path) (second : Spells column names) :
    Spells (table ++ "." ++ column) (path ++ names) where
  nonempty := by simp [first.nonempty]
  plain part member := by
    rcases List.mem_append.mp member with inTable | inColumn
    · exact first.plain part inTable
    · exact second.plain part inColumn
  text := by
    rw [intercalate_append ['.'] first.nonempty second.nonempty, ← first.text, ← second.text]
    simp

theorem autoQuote_qualified (quote : Option Char) {table column : String}
    {path names : List (List Char)} (first : Spells table path) (second : Spells column names) :
    autoQuote quote (table ++ "." ++ column) =
      autoQuote quote table ++ "." ++ autoQuote quote column := by
  cases quote with
  | none => rfl
  | some q =>
    have nonempty (path : List (List Char)) (some : path ≠ []) : path.map (quotePart q) ≠ [] := by
      simp [some]
    rw [← String.toList_inj, String.toList_append, String.toList_append,
      toList_autoQuote q (first.qualified second), toList_autoQuote q first,
      toList_autoQuote q second, List.map_append,
      intercalate_append _ (nonempty path first.nonempty) (nonempty names second.nonempty)]
    simp

theorem column_qualified (quote : Option Char) {table column : String} {path : List (List Char)}
    {name : List Char} (first : Spells table path) (second : Spells column [name]) :
    Reference.column quote (some table) column =
      Reference.column quote none table ++ "." ++ Reference.column quote none column := by
  have undotted : column.toList.contains '.' = false := by
    have absent := dot_not_mem (second.plain name (by simp))
    rw [second.text]
    simpa using absent
  simp only [Reference.column, qualify, undotted, Bool.false_eq_true, if_false]
  exact autoQuote_qualified quote first second

theorem splitList_append {text : List Char} (absent : ',' ∉ text) (rest : List Char) :
    splitList (text ++ rest) = (splitList rest).modifyHead (text ++ ·) := by
  induction text with
  | nil =>
    rw [List.nil_append]
    cases splitList rest <;> rfl
  | cons c text ih =>
    simp only [List.mem_cons, not_or] at absent
    have plain : ∀ more, c = ',' → text ++ rest = ' ' :: more → False :=
      fun _ comma _ => absent.1 comma.symm
    rw [List.cons_append, splitList.eq_3 _ _ plain, ih absent.2]
    exact modifyHead_append [c] text _

theorem splitList_intercalate {items : List (List Char)} (nonempty : items ≠ [])
    (absent : ∀ item ∈ items, ',' ∉ item) : splitList ([',', ' '].intercalate items) = items := by
  induction items with
  | nil => exact absurd rfl nonempty
  | cons x items ih =>
    have here := splitList_append (absent x (by simp))
    cases items with
    | nil => simpa [splitList] using here []
    | cons y items =>
      have later := ih (by simp) fun item member => absent item (by simp [member])
      rw [List.intercalate_cons_cons, List.append_assoc, here]
      simp [splitList, later]

theorem comma_not_mem {quote : Option Char} (free : ∀ q ∈ quote, IsFree q) {reference : String}
    {path : List (List Char)} (spells : Spells reference path) :
    ',' ∉ (autoQuote quote reference).toList := by
  have outside {part : List Char} (listed : part ∈ path) : ',' ∉ part := by
    intro member
    rcases char_of_plain (spells.plain part listed) member with named | star
    · exact absurd named (by decide)
    · cases star
  intro member
  cases quote with
  | none =>
    rw [autoQuote, spells.text] at member
    rcases mem_intercalate member with dot | ⟨part, listed, inside⟩
    · cases List.mem_singleton.mp dot
    · exact outside listed inside
  | some q =>
    have isFree := free q rfl
    rw [toList_autoQuote q spells] at member
    rcases mem_intercalate member with dot | ⟨piece, listed, inside⟩
    · cases List.mem_singleton.mp dot
    · obtain ⟨part, known, rfl⟩ := List.mem_map.mp listed
      have shown := shown_quotePart (isFree.not_mem (spells.plain part known))
      generalize quotePart q part = piece at shown inside
      cases shown with
      | bare _ => exact outside known inside
      | quoted _ =>
        simp only [List.mem_cons, List.mem_append, List.not_mem_nil, or_false] at inside
        rcases inside with same | inPart | same
        · exact isFree.2.2.2.1 same.symm
        · exact outside known inPart
        · exact isFree.2.2.2.1 same.symm

theorem readReference_autoQuote {quote : Option Char} (free : ∀ q ∈ quote, IsFree q)
    {reference : String} {path : List (List Char)} (spells : Spells reference path) :
    readReference quote (autoQuote quote reference).toList = some reference := by
  cases quote with
  | none => simp [readReference, autoQuote]
  | some q =>
    have read := (quotesExactly (free q rfl) spells).read
    simp [readReference, read, ← spells.text]

theorem mapM_eq_some_self {A : Type} {f : A → Option A} {items : List A}
    (each : ∀ a ∈ items, f a = some a) : items.mapM f = some items := by
  induction items with
  | nil => rfl
  | cons a items ih =>
    have later := ih fun b member => each b (by simp [member])
    simp [List.mapM_cons, each a (by simp), later]

theorem readColumns_columns {quote : Option Char} (free : ∀ q ∈ quote, IsFree q)
    {names : List String} (plain : ∀ name ∈ names, name = "" ∨ ∃ path, Spells name path) :
    readColumns quote (columns quote names) = some (names.filter (· ≠ "")) := by
  have spelled : ∀ name ∈ names.filter (· ≠ ""), ∃ path, Spells name path := by
    intro name member
    obtain ⟨listed, named⟩ := List.mem_filter.mp member
    exact (plain name listed).resolve_left (of_decide_eq_true named)
  rw [columns]
  generalize names.filter (· ≠ "") = kept at spelled
  cases kept with
  | nil => rfl
  | cons first more =>
    let texts := (first :: more).map fun name => (autoQuote quote name).toList
    have apart : ∀ text ∈ texts, ',' ∉ text := by
      intro text member
      obtain ⟨name, listed, rfl⟩ := List.mem_map.mp member
      obtain ⟨path, spells⟩ := spelled name listed
      exact comma_not_mem free spells
    have written : (", ".intercalate ((first :: more).map (column quote none))).toList =
        [',', ' '].intercalate texts := by
      simp [texts, column, qualify, Function.comp_def]
    have read : texts.mapM (readReference quote) = some (first :: more) := by
      rw [List.mapM_map]
      refine mapM_eq_some_self fun name listed => ?_
      obtain ⟨path, spells⟩ := spelled name listed
      exact readReference_autoQuote free spells
    simp only [readColumns]
    rw [written, splitList_intercalate (by simp [texts]) apart, read]

theorem quoting_reads_back :
    (∀ (quote : Char) (reference : String) (path : List (List Char)), IsFree quote →
      Spells reference path →
        QuotesExactly quote path (autoQuote (some quote) reference).toList) ∧
    (∀ (quote : Option Char) (reference : String),
      quote = none ∨ (∀ path, ¬ Spells reference path) → autoQuote quote reference = reference) ∧
    (∀ (config : Config) (table column : String) (path : List (List Char)) (name : List Char),
      Spells table path → Spells column [name] →
        config.qualifiedColumn (some table) column =
          config.column table ++ "." ++ config.column column) ∧
    ∀ (config : Config) (names : List String), (∀ q ∈ config.quote, IsFree q) →
      (∀ name ∈ names, name = "" ∨ ∃ path, Spells name path) →
        readColumns config.quote (config.columns names) = some (names.filter (· ≠ "")) := by
  refine ⟨fun _ _ _ free spells => quotesExactly free spells, ?unchanged,
    fun config _ _ _ _ table column => column_qualified config.quote table column,
    fun _ _ free plain => readColumns_columns free plain⟩
  case unchanged =>
    rintro quote reference (rfl | other)
    · rfl
    · exact autoQuote_of_not_plain quote other

theorem reserved_parts_read_back :
    let quote : Char := '\x60'
    let config : Config := { quote := some quote }
    IsFree quote ∧
      QuotesExactly quote ["Order".toList, "user_id".toList, ['*']]
        "\x60Order\x60.user_id.*".toList ∧
      autoQuote (some quote) "order desc" = "order desc" ∧
      config.qualifiedColumn (some "main.Order") "key" = "main.\x60Order\x60.\x60key\x60" ∧
      config.column "main.Order" ++ "." ++ config.column "key" =
        "main.\x60Order\x60.\x60key\x60" ∧
      readColumns (some quote) (some "\x60select\x60, a.\x60By\x60") =
        some ["select", "a.By"] := by
  intro quote config
  obtain ⟨quotes, unchanged, qualified, listed⟩ := quoting_reads_back
  have free : IsFree quote := by decide
  have spells (reference : String) (plain : isPlain reference.toList = true) :
      Spells reference (parts reference.toList) := spells_parts plain
  have rough : ∀ path, ¬ Spells "order desc" path :=
    fun _ spells => absurd (isPlain_of_spells spells) (by decide)
  have column := qualified config "main.Order" "key" _ _ (spells "main.Order" (by decide))
    (spells "key" (by decide))
  have columns := listed config ["", "select", "a.By", ""]
    (fun q same => Option.some.inj same ▸ free)
    (by
      simp only [List.forall_mem_cons, true_or, true_and, List.not_mem_nil, false_implies,
        implies_true, and_true]
      exact ⟨.inr ⟨_, spells "select" (by decide)⟩, .inr ⟨_, spells "a.By" (by decide)⟩⟩)
  have text : config.qualifiedColumn (some "main.Order") "key" =
      "main.\x60Order\x60.\x60key\x60" := by decide +kernel
  have shown : autoQuote (some quote) "Order.user_id.*" = "\x60Order\x60.user_id.*" := by
    decide +kernel
  have quoted := quotes quote "Order.user_id.*" _ free (spells "Order.user_id.*" (by decide))
  have list : config.columns ["", "select", "a.By", ""] =
      some "\x60select\x60, a.\x60By\x60" := by decide +kernel
  rw [shown] at quoted
  rw [list] at columns
  exact ⟨free, quoted, unchanged (some quote) "order desc" (.inr rough), text, column ▸ text,
    columns⟩

end SqlClauses.Reference
