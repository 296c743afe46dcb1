import SqlClauses.Proofs.Reference.Columns

set_option autoImplicit false

namespace SqlClauses.Reference

def Settled (text : List Char) : Prop :=
  isPlain text = true → ∀ part ∈ parts text, isReserved part = false

theorem quoteChars_of_settled (quote : Char) {text : List Char} (settled : Settled text) :
    quoteChars quote text = text := by
  by_cases plain : isPlain text = true
  · have bare : (parts text).map (quotePart quote) = (parts text).map id :=
      List.map_congr_left fun part member => by simp [quotePart, settled plain part member]
    rw [quoteChars, if_pos plain, bare, List.map_id]
    exact List.intercalate_splitOn '.'
  · rw [quoteChars, if_neg plain]

theorem parts_of_undotted {text : List Char} (undotted : '.' ∉ text) : parts text = [text] := by
  have all : ∀ piece ∈ [text], '.' ∉ piece := by simpa using undotted
  have split := List.splitOn_intercalate '.' all (by simp)
  rwa [List.intercalate_singleton] at split

theorem parts_append_dot (front back : List Char) :
    parts (front ++ '.' :: back) = parts front ++ parts back := by
  simp [parts, List.splitOn_append_cons_self]

theorem parts_intercalate {pieces : List (List Char)} (nonempty : pieces ≠ []) :
    parts (['.'].intercalate pieces) = pieces.flatMap parts := by
  induction pieces with
  | nil => exact absurd rfl nonempty
  | cons piece pieces ih =>
    rw [List.flatMap_cons]
    cases pieces with
    | nil => simp
    | cons next pieces =>
      rw [List.intercalate_cons_cons, List.append_assoc, List.singleton_append, parts_append_dot,
        ih (by simp)]

theorem settled_intercalate {pieces : List (List Char)} (nonempty : pieces ≠ [])
    (each : ∀ piece ∈ pieces, Settled piece) : Settled (['.'].intercalate pieces) := by
  unfold Settled isPlain
  rw [parts_intercalate nonempty]
  intro plain part member
  obtain ⟨piece, listed, inside⟩ := List.mem_flatMap.mp member
  refine each piece listed (List.all_eq_true.mpr fun other among => ?_) part inside
  exact List.all_eq_true.mp plain other (List.mem_flatMap.mpr ⟨piece, listed, among⟩)

theorem mem_double (quote c : Char) (text : List Char) :
    c ∈ Quoted.double quote text ↔ c ∈ text := by
  induction text with
  | nil => rfl
  | cons d text ih =>
    by_cases same : d = quote
    · simp [Quoted.double, same, ih]
    · simp [Quoted.double, same, ih]

theorem dot_not_mem_encodeChars {quote : Char} (apart : quote ≠ '.') {part : List Char}
    (undotted : '.' ∉ part) : '.' ∉ Quoted.encodeChars quote part := by
  simp [Quoted.encodeChars, mem_double, apart.symm, undotted]

-- Only one of the reserved words ends with its first letter.
theorem eq_else_of_framed : ∀ listed ∈ reservedWords,
    listed.toList.head? = listed.toList.getLast? → listed = "ELSE" := by
  decide +kernel

theorem isReserved_encodeChars (quote : Char) {part : List Char}
    (reserved : isReserved part = true) :
    isReserved (Quoted.encodeChars quote part) = false := by
  rw [Bool.eq_false_iff]
  intro framed
  have upper : (Quoted.encodeChars quote part).map Char.toUpper =
      quote.toUpper :: ((Quoted.double quote part).map Char.toUpper ++ [quote.toUpper]) := by
    simp [Quoted.encodeChars]
  have listed := List.contains_iff_mem.mp framed
  rw [upper] at listed
  have only := eq_else_of_framed _ listed (by
    rw [String.toList_ofList, List.head?_cons, ← List.cons_append, List.getLast?_concat])
  obtain ⟨capital, inner⟩ : quote.toUpper = 'E' ∧
      (Quoted.double quote part).map Char.toUpper ++ [quote.toUpper] = ['L', 'S'] ++ ['E'] := by
    simpa using congrArg String.toList only
  rw [capital] at inner
  have inside := List.append_cancel_right inner
  have absent : quote ∉ part := by
    intro member
    have shown : quote.toUpper ∈ (Quoted.double quote part).map Char.toUpper :=
      List.mem_map_of_mem ((mem_double quote quote part).mpr member)
    rw [capital, inside] at shown
    exact absurd shown (by decide)
  rw [double_of_not_mem absent] at inside
  rw [isReserved, inside] at reserved
  exact absurd reserved (by decide)

theorem settled_quotePart (quote : Char) {part : List Char} (undotted : '.' ∉ part) :
    Settled (quotePart quote part) := by
  by_cases reserved : isReserved part = true
  · rw [quotePart, if_pos reserved]
    by_cases dot : quote = '.'
    · -- In front of the first of two dots stands an empty part.
      intro plain
      subst dot
      have split := parts_append_dot [] (Quoted.double '.' part ++ ['.'])
      rw [List.nil_append] at split
      rw [isPlain, Quoted.encodeChars, split] at plain
      cases plain
    · intro _
      rw [parts_of_undotted (dot_not_mem_encodeChars dot undotted)]
      simpa using isReserved_encodeChars quote reserved
  · rw [quotePart, if_neg reserved]
    intro _
    rw [parts_of_undotted undotted]
    simpa using reserved

theorem settled_quoteChars (quote : Char) (text : List Char) : Settled (quoteChars quote text) := by
  by_cases plain : isPlain text = true
  · rw [quoteChars, if_pos plain]
    refine settled_intercalate (by simp [parts]) ?_
    intro piece member
    obtain ⟨part, listed, rfl⟩ := List.mem_map.mp member
    have named := (isPlainPart_iff part).mp (List.all_eq_true.mp plain part listed)
    exact settled_quotePart quote (dot_not_mem named)
  · rw [quoteChars, if_neg plain]
    exact fun same => absurd same plain

theorem autoQuote_autoQuote (quote : Option Char) (reference : String) :
    autoQuote quote (autoQuote quote reference) = autoQuote quote reference := by
  cases quote with
  | none => rfl
  | some q => simp [autoQuote, quoteChars_of_settled q (settled_quoteChars q reference.toList)]

theorem dot_mem_quoteChars (quote : Char) {text : List Char} (dotted : '.' ∈ text) :
    '.' ∈ quoteChars quote text := by
  by_cases plain : isPlain text = true
  · obtain ⟨front, back, rfl⟩ := List.append_of_mem dotted
    have nonempty (side : List Char) : (parts side).map (quotePart quote) ≠ [] := by
      simp [parts]
    rw [quoteChars, if_pos plain, parts_append_dot, List.map_append,
      intercalate_append ['.'] (nonempty front) (nonempty back)]
    simp
  · rwa [quoteChars, if_neg plain]

theorem dot_mem_autoQuote (quote : Option Char) {reference : String}
    (dotted : '.' ∈ reference.toList) : '.' ∈ (autoQuote quote reference).toList := by
  cases quote with
  | none => exact dotted
  | some q => simpa [autoQuote] using dot_mem_quoteChars q dotted

theorem dot_mem_qualify (table column : String) : '.' ∈ (qualify (some table) column).toList := by
  by_cases dotted : column.toList.contains '.' = true
  · rw [qualify, if_pos dotted]
    exact List.contains_iff_mem.mp dotted
  · rw [qualify, if_neg dotted]
    simp

theorem qualify_of_dotted (table : Option String) {column : String}
    (dotted : '.' ∈ column.toList) : qualify table column = column := by
  cases table with
  | none => rfl
  | some t => rw [qualify, if_pos (List.contains_iff_mem.mpr dotted)]

theorem qualify_column (quote : Option Char) (table : Option String) (name : String) :
    qualify table (column quote table name) = column quote table name := by
  cases table with
  | none => rfl
  | some t => exact qualify_of_dotted _ (dot_mem_autoQuote quote (dot_mem_qualify t name))

theorem written_reference_stays (config : Config) (table : Option String) (name : String) :
    let written := config.qualifiedColumn table name
    qualify table written = written ∧ autoQuote config.quote written = written ∧
      config.qualifiedColumn table written = written := by
  intro written
  have qualified : qualify table written = written := qualify_column config.quote table name
  have quoted : autoQuote config.quote written = written := autoQuote_autoQuote _ _
  have again : config.qualifiedColumn table written =
      autoQuote config.quote (qualify table written) := rfl
  rw [again, qualified]
  exact ⟨rfl, quoted, quoted⟩

-- Between letters as quotes stands another plain name.
example : column (some 'E') (some "t") "by" = "t.EbyE" ∧
    column (some 'E') (some "t") "t.EbyE" = "t.EbyE" := by decide +kernel

end SqlClauses.Reference
