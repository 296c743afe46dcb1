import Mathlib.Data.List.Forall2
import Mathlib.Tactic.Tauto
import SqlClauses.Reference.Basic

set_option autoImplicit false

namespace SqlClauses.Reference

def IsLetter (c : Char) : Prop := ('A' ≤ c ∧ c ≤ 'Z') ∨ ('a' ≤ c ∧ c ≤ 'z') ∨ c = '_'

def IsDigit (c : Char) : Prop := '0' ≤ c ∧ c ≤ '9'

instance (c : Char) : Decidable (IsLetter c) :=
  inferInstanceAs (Decidable (('A' ≤ c ∧ c ≤ 'Z') ∨ ('a' ≤ c ∧ c ≤ 'z') ∨ c = '_'))

instance (c : Char) : Decidable (IsDigit c) :=
  inferInstanceAs (Decidable ('0' ≤ c ∧ c ≤ '9'))

def IsNameChar (c : Char) : Prop := IsLetter c ∨ IsDigit c ∨ c = '$'

instance (c : Char) : Decidable (IsNameChar c) :=
  inferInstanceAs (Decidable (IsLetter c ∨ IsDigit c ∨ c = '$'))

inductive IsName : List Char → Prop where
  | intro {first : Char} {rest : List Char} :
    IsLetter first → (∀ c ∈ rest, IsNameChar c) → IsName (first :: rest)

structure Spells (reference : String) (path : List (List Char)) : Prop where
  nonempty : path ≠ []
  plain : ∀ part ∈ path, part = ['*'] ∨ IsName part
  text : reference.toList = ['.'].intercalate path

def Reserved (word : List Char) : Prop :=
  ∃ listed ∈ reservedWords,
    List.Forall₂ (fun c capital => c = capital ∨ c = capital.toLower) word listed.toList

theorem isUpper_iff (c : Char) : c.isUpper = true ↔ 'A' ≤ c ∧ c ≤ 'Z' := decide_eq_true_iff

theorem isLower_iff (c : Char) : c.isLower = true ↔ 'a' ≤ c ∧ c ≤ 'z' := by
  change (decide ('a' ≤ c) && decide (c ≤ 'z')) = true ↔ _
  rw [Bool.and_eq_true, decide_eq_true_iff, decide_eq_true_iff]

theorem isDigit_iff (c : Char) : c.isDigit = true ↔ IsDigit c := by
  change (decide ('0' ≤ c) && decide (c ≤ '9')) = true ↔ _
  rw [Bool.and_eq_true, decide_eq_true_iff, decide_eq_true_iff, IsDigit]

theorem isLetter_iff (c : Char) : (c.isAlpha || c == '_') = true ↔ IsLetter c := by
  change (c.isUpper || c.isLower || c == '_') = true ↔ _
  rw [Bool.or_eq_true, Bool.or_eq_true, isUpper_iff, isLower_iff, beq_iff_eq, or_assoc, IsLetter]

theorem isNameChar_iff (c : Char) :
    (c.isAlphanum || c == '_' || c == '$') = true ↔ IsNameChar c := by
  have letter := isLetter_iff c
  have digit := isDigit_iff c
  change (c.isAlpha || c.isDigit || c == '_' || c == '$') = true ↔ _
  simp only [Bool.or_eq_true, beq_iff_eq] at letter ⊢
  rw [IsNameChar]
  tauto

theorem isIdentifier_iff (word : List Char) : isIdentifier word = true ↔ IsName word := by
  cases word with
  | nil =>
    constructor
    · intro h
      cases h
    · intro h
      cases h
  | cons first rest =>
    simp only [isIdentifier, Bool.and_eq_true, List.all_eq_true, isLetter_iff, isNameChar_iff]
    constructor
    · rintro ⟨letter, others⟩
      exact .intro letter others
    · rintro (⟨letter, others⟩)
      exact ⟨letter, others⟩

theorem isPlainPart_iff (part : List Char) :
    isPlainPart part = true ↔ part = ['*'] ∨ IsName part := by
  simp [isPlainPart, isIdentifier_iff]

theorem char_of_plain {part : List Char} (plain : part = ['*'] ∨ IsName part) {c : Char}
    (member : c ∈ part) : IsNameChar c ∨ c = '*' := by
  rcases plain with rfl | ⟨letter, others⟩
  · exact .inr (List.mem_singleton.mp member)
  · rcases List.mem_cons.mp member with rfl | later
    · exact .inl (.inl letter)
    · exact .inl (others c later)

theorem dot_not_mem {part : List Char} (plain : part = ['*'] ∨ IsName part) : '.' ∉ part := by
  intro member
  rcases char_of_plain plain member with dot | star
  · exact absurd dot (by decide)
  · cases star

theorem parts_of_spells {reference : String} {path : List (List Char)}
    (spells : Spells reference path) : parts reference.toList = path := by
  rw [parts, spells.text]
  exact List.splitOn_intercalate '.' (fun part member => dot_not_mem (spells.plain part member))
    spells.nonempty

theorem isPlain_of_spells {reference : String} {path : List (List Char)}
    (spells : Spells reference path) : isPlain reference.toList = true := by
  rw [isPlain, parts_of_spells spells, List.all_eq_true]
  exact fun part member => (isPlainPart_iff part).mpr (spells.plain part member)

theorem spells_parts {reference : String} (plain : isPlain reference.toList = true) :
    Spells reference (parts reference.toList) where
  nonempty := List.splitOn_ne_nil _ _
  plain part member := (isPlainPart_iff part).mp (List.all_eq_true.mp plain part member)
  text := (List.intercalate_splitOn '.').symm

theorem isPlain_iff (reference : String) :
    isPlain reference.toList = true ↔ ∃ path, Spells reference path :=
  ⟨fun plain => ⟨_, spells_parts plain⟩, fun ⟨_, spells⟩ => isPlain_of_spells spells⟩

theorem toLower_toUpper_ofNat : ∀ n < 123, 97 ≤ n →
    (Char.ofNat n).toUpper.toLower = Char.ofNat n := by
  decide

theorem eq_toUpper_or (c : Char) : c = c.toUpper ∨ c = c.toUpper.toLower := by
  by_cases small : 'a'.val ≤ c.val ∧ c.val ≤ 'z'.val
  · right
    have low : 97 ≤ c.toNat := UInt32.le_iff_toNat_le.mp small.1
    have high : c.toNat ≤ 122 := UInt32.le_iff_toNat_le.mp small.2
    have same := toLower_toUpper_ofNat c.toNat (by omega) low
    rw [Char.ofNat_toNat] at same
    exact same.symm
  · left
    delta Char.toUpper
    rw [dif_neg small]

theorem reservedWords_capital : ∀ listed ∈ reservedWords, ∀ c ∈ listed.toList,
    c.toUpper = c ∧ c.toLower.toUpper = c := by
  have checked : (reservedWords.all fun listed => listed.toList.all fun c =>
      c.toUpper == c && c.toLower.toUpper == c) = true := by
    decide +kernel
  simpa using checked

theorem isReserved_iff (word : List Char) : isReserved word = true ↔ Reserved word := by
  rw [isReserved, List.contains_iff_mem]
  constructor
  · intro listed
    refine ⟨_, listed, ?_⟩
    rw [String.toList_ofList, List.forall₂_map_right_iff, List.forall₂_same]
    exact fun c _ => eq_toUpper_or c
  · rintro ⟨listed, member, cased⟩
    have capitals := reservedWords_capital listed member
    have same : word.map Char.toUpper = listed.toList := by
      generalize listed.toList = letters at cased capitals
      induction cased with
      | nil => rfl
      | @cons c capital word letters first _ ih =>
        obtain ⟨upper, small⟩ := capitals capital (by simp)
        have here : c.toUpper = capital := by
          rcases first with rfl | rfl
          · exact upper
          · exact small
        rw [List.map_cons, here, ih fun d later => capitals d (by simp [later])]
    rw [same, String.ofList_toList]
    exact member

end SqlClauses.Reference
