import SqlClauses.Proofs.Quoted.Reading
import SqlClauses.Proofs.Reference.Plain

set_option autoImplicit false

namespace SqlClauses.Reference

-- A quote character that has no other use in references and lists of them.
def IsFree (quote : Char) : Prop :=
  ¬ IsNameChar quote ∧ quote ≠ '*' ∧ quote ≠ '.' ∧ quote ≠ ',' ∧ quote ≠ ' '

instance (quote : Char) : Decidable (IsFree quote) :=
  inferInstanceAs
    (Decidable (¬ IsNameChar quote ∧ quote ≠ '*' ∧ quote ≠ '.' ∧ quote ≠ ',' ∧ quote ≠ ' '))

def splitFrom (quote : Char) : Bool → List Char → List (List Char)
  | _, [] => [[]]
  | quoted, c :: rest =>
    if c = '.' ∧ quoted = false then [] :: splitFrom quote false rest
    else (splitFrom quote (quoted != (c == quote)) rest).modifyHead (c :: ·)

def split (quote : Char) (text : List Char) : List (List Char) := splitFrom quote false text

def unquote (quote : Char) : List Char → Option (List Char)
  | [] => some []
  | c :: rest =>
    if c = quote then
      match Quoted.read quote rest with
      | some (text, []) => some text
      | _ => none
    else some (c :: rest)

inductive Shown (quote : Char) : List Char → List Char → Prop where
  | quoted {part : List Char} : Reserved part → Shown quote part (quote :: (part ++ [quote]))
  | bare {part : List Char} : ¬ Reserved part → Shown quote part part

structure QuotesExactly (quote : Char) (path : List (List Char)) (text : List Char) : Prop where
  shown : List.Forall₂ (Shown quote) path (split quote text)
  joined : text = ['.'].intercalate (split quote text)
  read : (split quote text).mapM (unquote quote) = some path
  bare : ∀ piece ∈ split quote text, piece.head? ≠ some quote → ¬ Reserved piece

variable {quote : Char}

theorem IsFree.not_mem {part : List Char} (free : IsFree quote)
    (plain : part = ['*'] ∨ IsName part) : quote ∉ part := by
  intro member
  rcases char_of_plain plain member with named | star
  · exact free.1 named
  · exact free.2.1 star

theorem modifyHead_append {A : Type} (front back : List A) (pieces : List (List A)) :
    (pieces.modifyHead (back ++ ·)).modifyHead (front ++ ·) =
      pieces.modifyHead (front ++ back ++ ·) := by
  cases pieces <;> simp

theorem double_of_not_mem {part : List Char} (absent : quote ∉ part) :
    Quoted.double quote part = part := by
  induction part with
  | nil => rfl
  | cons c part ih =>
    simp only [List.mem_cons, not_or] at absent
    rw [Quoted.double, if_neg (Ne.symm absent.1), ih absent.2]

theorem encodeChars_of_not_mem {part : List Char} (absent : quote ∉ part) :
    Quoted.encodeChars quote part = quote :: (part ++ [quote]) := by
  rw [Quoted.encodeChars, double_of_not_mem absent]

theorem shown_quotePart {part : List Char} (absent : quote ∉ part) :
    Shown quote part (quotePart quote part) := by
  by_cases reserved : isReserved part = true
  · rw [quotePart, if_pos reserved, encodeChars_of_not_mem absent]
    exact .quoted ((isReserved_iff part).mp reserved)
  · rw [quotePart, if_neg reserved]
    exact .bare (mt (isReserved_iff part).mpr reserved)

-- Neither a dot inside quotes nor a part without quotes ends a piece.
theorem splitFrom_append (quoted : Bool) {part : List Char} (undotted : '.' ∉ part)
    (absent : quote ∉ part) (rest : List Char) :
    splitFrom quote quoted (part ++ rest) =
      (splitFrom quote quoted rest).modifyHead (part ++ ·) := by
  induction part with
  | nil =>
    rw [List.nil_append]
    cases splitFrom quote quoted rest <;> rfl
  | cons c part ih =>
    simp only [List.mem_cons, not_or] at undotted absent
    have later := ih undotted.2 absent.2
    have plain : (c == quote) = false := beq_false_of_ne (Ne.symm absent.1)
    rw [List.cons_append, splitFrom, if_neg fun dot => undotted.1 dot.1.symm, plain,
      Bool.bne_false, later]
    exact modifyHead_append [c] part _

theorem splitFrom_quote (apart : quote ≠ '.') (quoted : Bool) (rest : List Char) :
    splitFrom quote quoted (quote :: rest) =
      (splitFrom quote (!quoted) rest).modifyHead (quote :: ·) := by
  rw [splitFrom, if_neg fun dot => apart dot.1, beq_self_eq_true, Bool.bne_true]

theorem splitFrom_shown (apart : quote ≠ '.') {part piece : List Char} (undotted : '.' ∉ part)
    (absent : quote ∉ part) (shown : Shown quote part piece) (rest : List Char) :
    splitFrom quote false (piece ++ rest) =
      (splitFrom quote false rest).modifyHead (piece ++ ·) := by
  cases shown with
  | bare _ => exact splitFrom_append false undotted absent rest
  | quoted _ =>
    have inside := splitFrom_append true undotted absent (quote :: rest)
    rw [splitFrom_quote apart, Bool.not_true] at inside
    rw [List.cons_append, splitFrom_quote apart, Bool.not_false, List.append_assoc,
      List.singleton_append, inside]
    cases splitFrom quote false rest <;> simp

theorem split_intercalate (apart : quote ≠ '.') {path pieces : List (List Char)}
    (nonempty : path ≠ []) (undotted : ∀ part ∈ path, '.' ∉ part)
    (absent : ∀ part ∈ path, quote ∉ part) (shown : List.Forall₂ (Shown quote) path pieces) :
    split quote (['.'].intercalate pieces) = pieces := by
  induction shown with
  | nil => exact absurd rfl nonempty
  | @cons part piece path pieces first others ih =>
    have here := splitFrom_shown apart (undotted part (by simp)) (absent part (by simp)) first
    cases others with
    | nil => simpa [split, splitFrom] using here []
    | @cons next nextPiece path pieces second others =>
      have later := ih (by simp) (fun p member => undotted p (by simp [member]))
        (fun p member => absent p (by simp [member]))
      rw [split] at later ⊢
      rw [List.intercalate_cons_cons, List.append_assoc, List.singleton_append, here, splitFrom,
        if_pos ⟨rfl, rfl⟩, later]
      simp

theorem unquote_shown {part piece : List Char} (absent : quote ∉ part)
    (shown : Shown quote part piece) : unquote quote piece = some part := by
  cases shown with
  | quoted _ =>
    have read : Quoted.read quote (part ++ [quote]) = some (part, []) := by
      have closes : Quoted.Closes quote [] := by simp [Quoted.Closes]
      have closed := Quoted.read_double closes part
      rwa [double_of_not_mem absent] at closed
    simp [unquote, read]
  | bare _ =>
    cases part with
    | nil => rfl
    | cons c part =>
      have other : c ≠ quote := fun same => absent (by simp [same])
      rw [unquote, if_neg other]

theorem mapM_unquote {path pieces : List (List Char)} (absent : ∀ part ∈ path, quote ∉ part)
    (shown : List.Forall₂ (Shown quote) path pieces) :
    pieces.mapM (unquote quote) = some path := by
  induction shown with
  | nil => rfl
  | @cons part piece path pieces first others ih =>
    have here := unquote_shown (absent part (by simp)) first
    have later := ih fun p member => absent p (by simp [member])
    simp [List.mapM_cons, here, later]

theorem not_reserved_of_shown {path pieces : List (List Char)}
    (shown : List.Forall₂ (Shown quote) path pieces) :
    ∀ piece ∈ pieces, piece.head? ≠ some quote → ¬ Reserved piece := by
  induction shown with
  | nil => simp
  | cons first _ ih =>
    rw [List.forall_mem_cons]
    refine ⟨fun unquoted => ?_, ih⟩
    cases first with
    | quoted _ => exact absurd rfl unquoted
    | bare plain => exact plain

theorem shown_parts {path : List (List Char)} (absent : ∀ part ∈ path, quote ∉ part) :
    List.Forall₂ (Shown quote) path (path.map (quotePart quote)) := by
  rw [List.forall₂_map_right_iff, List.forall₂_same]
  exact fun part member => shown_quotePart (absent part member)

theorem toList_autoQuote (quote : Char) {reference : String} {path : List (List Char)}
    (spells : Spells reference path) :
    (autoQuote (some quote) reference).toList =
      ['.'].intercalate (path.map (quotePart quote)) := by
  rw [autoQuote, String.toList_ofList, quoteChars, if_pos (isPlain_of_spells spells),
    parts_of_spells spells]

theorem quotesExactly (free : IsFree quote) {reference : String} {path : List (List Char)}
    (spells : Spells reference path) :
    QuotesExactly quote path (autoQuote (some quote) reference).toList := by
  have absent : ∀ part ∈ path, quote ∉ part :=
    fun part member => free.not_mem (spells.plain part member)
  have shown := shown_parts absent
  have pieces : split quote (autoQuote (some quote) reference).toList =
      path.map (quotePart quote) := by
    rw [toList_autoQuote quote spells]
    exact split_intercalate free.2.2.1 spells.nonempty
      (fun part member => dot_not_mem (spells.plain part member)) absent shown
  constructor
  · rw [pieces]
    exact shown
  · rw [pieces]
    exact toList_autoQuote quote spells
  · rw [pieces]
    exact mapM_unquote absent shown
  · rw [pieces]
    exact not_reserved_of_shown shown

theorem autoQuote_of_not_plain (quote : Option Char) {reference : String}
    (other : ∀ path, ¬ Spells reference path) : autoQuote quote reference = reference := by
  cases quote with
  | none => rfl
  | some q =>
    have rough : ¬ isPlain reference.toList = true := by
      rw [isPlain_iff]
      rintro ⟨path, spells⟩
      exact other path spells
    rw [autoQuote, quoteChars, if_neg rough, String.ofList_toList]

end SqlClauses.Reference
