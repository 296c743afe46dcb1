import SqlClauses.Proofs.Reference.Plain

set_option autoImplicit false

namespace SqlClauses

-- Each item counts with a comma and a blank.
def widths : List String → Nat
  | [] => 0
  | text :: rest => text.length + 2 + widths rest

theorem widths_replicate (count : Nat) : widths (List.replicate count "") = 2 * count := by
  induction count with
  | zero => rfl
  | succ count ih =>
    rw [List.replicate_succ, widths, ih, String.length_empty]
    omega

theorem length_intercalate_add_two {items : List String} (nonempty : items ≠ []) :
    (", ".intercalate items).length + 2 = widths items := by
  induction items with
  | nil => exact absurd rfl nonempty
  | cons text items ih =>
    cases items with
    | nil => simp [widths]
    | cons next items =>
      have later := ih (by simp)
      rw [widths, String.intercalate_cons_cons, String.length_append, String.length_append]
      have separator : ", ".length = 2 := rfl
      omega

theorem widths_of_sublist {short long : List String} (sub : short.Sublist long) :
    widths short + 2 * long.length ≤ widths long + 2 * short.length := by
  induction sub with
  | slnil => simp
  | cons text _ ih =>
    simp only [widths, List.length_cons] at ih ⊢
    omega
  | cons_cons text _ ih =>
    simp only [widths, List.length_cons] at ih ⊢
    omega

theorem eq_of_sublist_of_intercalate {short long : List String} (sub : short.Sublist long)
    (nonempty : short ≠ []) (same : ", ".intercalate short = ", ".intercalate long) :
    short = long := by
  have filled : long ≠ [] := by
    rintro rfl
    exact nonempty (List.sublist_nil.mp sub)
  have widths_eq := congrArg (fun text => text.length + 2) same
  simp only [length_intercalate_add_two nonempty, length_intercalate_add_two filled] at widths_eq
  have bound := widths_of_sublist sub
  exact sub.eq_of_length_le (by omega)

namespace Reference

theorem intercalate_ne_nil {pieces : List (List Char)} (nonempty : pieces ≠ [])
    (each : ∀ piece ∈ pieces, piece ≠ []) : ['.'].intercalate pieces ≠ [] := by
  obtain ⟨piece, rest, rfl⟩ := List.exists_cons_of_ne_nil nonempty
  have first := each piece (by simp)
  cases rest with
  | nil => simpa using first
  | cons next rest => simp [first]

theorem quotePart_ne_nil (quote : Char) {part : List Char} (plain : isPlainPart part = true) :
    quotePart quote part ≠ [] := by
  by_cases reserved : isReserved part = true
  · simp [quotePart, reserved, Quoted.encodeChars]
  · rw [quotePart, if_neg reserved]
    rintro rfl
    cases plain

theorem quoteChars_eq_nil_iff (quote : Char) (text : List Char) :
    quoteChars quote text = [] ↔ text = [] := by
  by_cases plain : isPlain text = true
  · have written : quoteChars quote text ≠ [] := by
      rw [quoteChars, if_pos plain]
      refine intercalate_ne_nil (by simp [parts]) fun piece member => ?_
      obtain ⟨part, listed, rfl⟩ := List.mem_map.mp member
      exact quotePart_ne_nil quote (List.all_eq_true.mp plain part listed)
    have given : text ≠ [] := by
      rintro rfl
      cases plain
    exact iff_of_false written given
  · rw [quoteChars, if_neg plain]

theorem column_eq_empty_iff (quote : Option Char) (name : String) :
    column quote none name = "" ↔ name = "" := by
  cases quote with
  | none => rfl
  | some q => simp [column, qualify, autoQuote, ← String.toList_eq_nil_iff, quoteChars_eq_nil_iff]

def named (names : List String) : List String := names.filter (· ≠ "")

theorem named_of_not_mem {names : List String} (all : "" ∉ names) : named names = names :=
  List.filter_eq_self.mpr fun _ member => decide_eq_true fun empty => all (empty ▸ member)

theorem length_named_iff (names : List String) :
    (named names).length = names.length ↔ "" ∉ names := by
  rw [named, List.length_filter_eq_length_iff]
  constructor
  · intro named member
    exact absurd rfl (of_decide_eq_true (named "" member))
  · intro absent name member
    exact decide_eq_true fun empty => absent (empty ▸ member)

theorem columns_named (quote : Option Char) (names : List String) :
    columns quote (named names) = columns quote names := by
  have again : (named names).filter (· ≠ "") = names.filter (· ≠ "") := by simp [named]
  rw [columns, columns, again]

end Reference

end SqlClauses
