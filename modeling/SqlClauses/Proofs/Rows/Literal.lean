import Mathlib.Data.List.TakeWhile
import SqlClauses.Proofs.Condition.Literal
import SqlClauses.Proofs.Quoted.Reading

set_option autoImplicit false

namespace SqlClauses

namespace Decoding

open Syntax (Boundary)

def hexDigit (c : Char) : Option Nat :=
  if c.isDigit then some (c.toNat - 48)
  else if 'A' ≤ c ∧ c ≤ 'F' then some (c.toNat - 55)
  else none

def hexBytes : List Char → Option (List UInt8)
  | [] => some []
  | [_] => none
  | high :: low :: rest => do
    let high ← hexDigit high
    let low ← hexDigit low
    (UInt8.ofNat (16 * high + low) :: ·) <$> hexBytes rest

def integer (negative : Bool) (input : List Char) : Option (Value × List Char) :=
  match input.takeWhile Char.isDigit with
  | [] => none
  | digits =>
    let magnitude : Int := Nat.ofDigitChars 10 digits 0
    let n := if negative then -magnitude else magnitude
    if Int64.minValue.toInt ≤ n ∧ n ≤ Int64.maxValue.toInt then
      some (.int (Int64.ofInt n), input.dropWhile Char.isDigit)
    else none

def literal : List Char → Option (Value × List Char)
  | 'N' :: 'U' :: 'L' :: 'L' :: rest => some (.null, rest)
  | 'T' :: 'R' :: 'U' :: 'E' :: rest => some (.bool true, rest)
  | 'F' :: 'A' :: 'L' :: 'S' :: 'E' :: rest => some (.bool false, rest)
  | 'X' :: '\'' :: rest => do
    let (digits, later) ← Quoted.read '\'' rest
    let bytes ← hexBytes digits
    some (.blob bytes, later)
  | '\'' :: rest => do
    let (text, later) ← Quoted.read '\'' rest
    some (.text (String.ofList text), later)
  | '-' :: rest => integer true rest
  | input => integer false input

theorem hexDigit_upper : ∀ n < 16, hexDigit (Value.upperHexDigit n) = some n := by
  decide

theorem hexBytes_upper (bytes : List UInt8) :
    hexBytes (bytes.flatMap Value.hexByte) = some bytes := by
  induction bytes with
  | nil => rfl
  | cons byte bytes ih =>
    have bound := byte.toNat_lt
    have high := hexDigit_upper (byte.toNat / 16) (by omega)
    have low := hexDigit_upper (byte.toNat % 16) (by omega)
    have joined : UInt8.ofNat (16 * (byte.toNat / 16) + byte.toNat % 16) = byte := by
      rw [Nat.div_add_mod, UInt8.ofNat_toNat]
    simp [Value.hexByte, hexBytes, high, low, ih, joined, -UInt8.ofNat_add]

-- Digits end where a boundary begins.
theorem integer_digits (n : Int64) {rest : List Char} (boundary : Boundary rest) :
    integer (n.toInt < 0) (Nat.toDigits 10 n.toInt.natAbs ++ rest) = some (.int n, rest) := by
  have digits : ∀ c ∈ Nat.toDigits 10 n.toInt.natAbs, c.isDigit = true :=
    fun _ => Syntax.digit_of_mem_toDigits
  have none : rest.takeWhile Char.isDigit = [] := by
    cases rest with
    | nil => rfl
    | cons c rest => rcases boundary c rfl with rfl | rfl | rfl <;> rfl
  have all : rest.dropWhile Char.isDigit = rest := by
    cases rest with
    | nil => rfl
    | cons c rest => rcases boundary c rfl with rfl | rfl | rfl <;> rfl
  have taken : (Nat.toDigits 10 n.toInt.natAbs ++ rest).takeWhile Char.isDigit =
      Nat.toDigits 10 n.toInt.natAbs := by
    rw [List.takeWhile_append_of_pos digits, none, List.append_nil]
  have dropped : (Nat.toDigits 10 n.toInt.natAbs ++ rest).dropWhile Char.isDigit = rest := by
    rw [List.dropWhile_append_of_pos digits, all]
  obtain ⟨first, more, shape⟩ :
      ∃ first more, Nat.toDigits 10 n.toInt.natAbs = first :: more :=
    List.exists_cons_of_ne_nil Nat.toDigits_ne_nil
  have signed : (if n.toInt < 0 then -(n.toInt.natAbs : Int) else n.toInt.natAbs) = n.toInt := by
    split <;> omega
  have value : Nat.ofDigitChars 10 (first :: more) 0 = n.toInt.natAbs := by
    rw [← shape, Nat.ofDigitChars_ten_toDigits]
  unfold integer
  rw [taken, dropped, shape]
  simp only [value, decide_eq_true_eq, signed, n.minValue_le_toInt, n.toInt_le, and_self, if_true,
    Int64.ofInt_toInt]

theorem literal_of_digit {c : Char} (digit : c.isDigit = true) (rest : List Char) :
    literal (c :: rest) = integer false (c :: rest) := by
  unfold literal
  split
  case h_7 => rfl
  all_goals
    rename_i shape
    obtain ⟨rfl, -⟩ := List.cons.inj shape
    cases digit

theorem literal_toDigits (n : Nat) (rest : List Char) :
    literal (Nat.toDigits 10 n ++ rest) = integer false (Nat.toDigits 10 n ++ rest) := by
  obtain ⟨first, more, shape⟩ : ∃ first more, Nat.toDigits 10 n = first :: more :=
    List.exists_cons_of_ne_nil Nat.toDigits_ne_nil
  have digit : first.isDigit = true := Syntax.digit_of_mem_toDigits (n := n) (by simp [shape])
  rw [shape, List.cons_append, literal_of_digit digit]

end Decoding

open Decoding

-- A float may be written like an integer, so its literal does not tell its type.
def Value.IsExact : Value → Prop
  | .float _ => False
  | _ => True

theorem Decoding.literal_reads {v : Value} (exact : v.IsExact) {rest : List Char}
    (boundary : Syntax.Boundary rest) : literal (v.literal.toList ++ rest) = some (v, rest) := by
  have closes := Quoted.closes_of_boundary boundary
  cases v with
  | null => simp [Value.literal, literal]
  | bool b => cases b <;> simp [Value.literal, literal]
  | int n =>
    have digits := integer_digits n boundary
    rw [Value.literal, Syntax.int_literal]
    by_cases negative : n.toInt < 0
    · simpa [Decimal.sign, negative, literal] using digits
    · simpa [Decimal.sign, negative, literal_toDigits] using digits
  | float x => exact exact.elim
  | text s => simp [Value.literal, Quoted.encodeChars, literal, Quoted.read_double closes]
  | blob bytes =>
    simp [Value.literal, Quoted.encodeChars, literal, Quoted.read_double closes, hexBytes_upper]

end SqlClauses
