import SqlClauses.Proofs.Json.Grammar
import SqlClauses.Proofs.Reference.Quoting
import SqlClauses.Proofs.Template.Apart
import SqlClauses.Proofs.Condition.Literal

set_option autoImplicit false

namespace SqlClauses

open Json (AreDigits FractionPart)

namespace Literal

inductive Numeral : List Char → Prop where
  | mk {w f : List Char} (nonempty : w ≠ []) (digits : AreDigits w) (fraction : FractionPart f) :
    Numeral (w ++ f)

inductive Body : List Char → Prop where
  | nil : Body []
  | plain {c : Char} {w : List Char} (notQuote : c ≠ '\'') (rest : Body w) : Body (c :: w)
  | quote {w : List Char} (rest : Body w) : Body ('\'' :: '\'' :: w)

def IsHex (c : Char) : Prop := c.isDigit = true ∨ 'A' ≤ c ∧ c ≤ 'F'

instance (c : Char) : Decidable (IsHex c) :=
  inferInstanceAs (Decidable (c.isDigit = true ∨ 'A' ≤ c ∧ c ≤ 'F'))

inductive HexPairs : List Char → Prop where
  | nil : HexPairs []
  | pair {high low : Char} {w : List Char} (first : IsHex high) (second : IsHex low)
      (rest : HexPairs w) : HexPairs (high :: low :: w)

end Literal

open Literal

inductive IsLiteral : List Char → Prop where
  | word {w : List Char} (listed : w ∈ ["NULL".toList, "TRUE".toList, "FALSE".toList]) :
    IsLiteral w
  | number {w : List Char} (numeral : Numeral w) : IsLiteral w
  | negative {w : List Char} (numeral : Numeral w) : IsLiteral ('-' :: w)
  | string {w : List Char} (body : Body w) : IsLiteral ('\'' :: (w ++ ['\'']))
  | bytes {w : List Char} (pairs : HexPairs w) : IsLiteral ('X' :: '\'' :: (w ++ ['\'']))

namespace Literal

theorem Numeral.of_digits {w : List Char} (nonempty : w ≠ []) (digits : AreDigits w) :
    Numeral w := by
  rw [← List.append_nil w]
  exact .mk nonempty digits .absent

theorem Numeral.begins {w : List Char} (numeral : Numeral w) : w.head?.any Char.isDigit = true := by
  obtain ⟨nonempty, digits, -⟩ := numeral
  obtain ⟨c, w, rfl⟩ := List.exists_cons_of_ne_nil nonempty
  simpa using digits c (by simp)

theorem areDigits_toDigits (n : Nat) : AreDigits (Nat.toDigits 10 n) :=
  fun _ => Syntax.digit_of_mem_toDigits

theorem areDigits_zeros (count : Nat) : AreDigits (List.replicate count '0') := by
  intro c member
  rw [List.eq_of_mem_replicate member]
  rfl

theorem areDigits_append {w v : List Char} (first : AreDigits w) (second : AreDigits v) :
    AreDigits (w ++ v) :=
  fun c member => (List.mem_append.mp member).elim (first c) (second c)

theorem numeral_toDigits (n : Nat) : Numeral (Nat.toDigits 10 n) :=
  .of_digits Nat.toDigits_ne_nil (areDigits_toDigits n)

theorem numeral_positional (d : Decimal) : Numeral d.positional.toList := by
  have digits := areDigits_toDigits d.digits
  have some : 0 < (Nat.toDigits 10 d.digits).length :=
    List.length_pos_iff.mpr Nat.toDigits_ne_nil
  simp only [Decimal.positional]
  split
  case isTrue =>
    have whole := areDigits_append digits (areDigits_zeros d.exponent.toNat)
    simpa [Decimal.zeros] using Numeral.of_digits (by simp) whole
  case isFalse places =>
    split
    case isTrue inside =>
      let whole := (Nat.toDigits 10 d.digits).length - (-d.exponent).toNat
      have front : (Nat.toDigits 10 d.digits).take whole ≠ [] := by
        rw [← List.length_pos_iff, List.length_take]
        omega
      have back : (Nat.toDigits 10 d.digits).drop whole ≠ [] := by
        rw [← List.length_pos_iff, List.length_drop]
        omega
      have numeral := Numeral.mk front (fun c member => digits c (List.mem_of_mem_take member))
        (.present back fun c member => digits c (List.mem_of_mem_drop member))
      simpa using numeral
    case isFalse =>
      -- All digits stand behind the point.
      have zero : AreDigits ['0'] := areDigits_zeros 1
      have back := areDigits_append
        (areDigits_zeros ((-d.exponent).toNat - (Nat.toDigits 10 d.digits).length)) digits
      have numeral := Numeral.mk (by simp) zero (.present (by simp) back)
      simpa [Decimal.zeros] using numeral

theorem isLiteral_signed {w : String} (numeral : Numeral w.toList) (negative : Bool) :
    IsLiteral (Decimal.sign negative ++ w).toList := by
  cases negative with
  | false => simpa [Decimal.sign] using IsLiteral.number numeral
  | true => simpa [Decimal.sign] using IsLiteral.negative numeral

theorem body_double (text : List Char) : Body (Quoted.double '\'' text) := by
  induction text with
  | nil => exact .nil
  | cons c text ih =>
    by_cases same : c = '\''
    · rw [Quoted.double, if_pos same]
      exact .quote ih
    · rw [Quoted.double, if_neg same]
      exact .plain same ih

theorem isHex_upperHexDigit : ∀ n < 16, IsHex (Value.upperHexDigit n) := by
  decide

theorem hexPairs_hexByte (bytes : List UInt8) : HexPairs (bytes.flatMap Value.hexByte) := by
  induction bytes with
  | nil => exact .nil
  | cons byte bytes ih =>
    have bound := byte.toNat_lt
    exact .pair (isHex_upperHexDigit _ (by omega)) (isHex_upperHexDigit _ (by omega)) ih

theorem HexPairs.isHex {w : List Char} (pairs : HexPairs w) : ∀ c ∈ w, IsHex c := by
  induction pairs with
  | nil => simp
  | pair first second _ ih =>
    exact List.forall_mem_cons.mpr ⟨first, List.forall_mem_cons.mpr ⟨second, ih⟩⟩

theorem HexPairs.quote_not_mem {w : List Char} (pairs : HexPairs w) : '\'' ∉ w :=
  fun member => absurd (pairs.isHex _ member) (by decide)

def Begins (w : List Char) : Prop :=
  w ∈ ["NULL".toList, "TRUE".toList, "FALSE".toList] ∨ w.head?.any Char.isDigit = true ∨
    w.head? = some '-' ∧ w.tail.head?.any Char.isDigit = true ∨ w.head? = some '\'' ∨
    w.take 2 = ['X', '\'']

end Literal

theorem IsLiteral.begins {w : List Char} (literal : IsLiteral w) : Begins w := by
  cases literal with
  | word listed => exact .inl listed
  | number numeral => exact .inr (.inl numeral.begins)
  | negative numeral => exact .inr (.inr (.inl ⟨rfl, numeral.begins⟩))
  | string _ => exact .inr (.inr (.inr (.inl rfl)))
  | bytes _ => exact .inr (.inr (.inr (.inr rfl)))

namespace Decimal.Double

-- Eleven bits, above the fifty-two of the fraction.
def exponentBits (bits : UInt64) : Nat := bits.toNat / 0x10000000000000 % 2048

def IsFinite : Double → Prop
  | .nan => False
  | .infinite _ => False
  | .zero _ => True
  | .nonzero _ _ => True

theorem isFinite_ofBits_iff (bits : UInt64) :
    (ofBits bits).IsFinite ↔ exponentBits bits ≠ 2047 := by
  have biased : bits.toNat / unit % 2048 = exponentBits bits := rfl
  rw [ofBits, biased]
  split
  case isTrue ones =>
    refine iff_of_false ?_ (not_not.mpr ones)
    split <;> exact id
  case isFalse other =>
    refine iff_of_true ?_ other
    split
    · split <;> trivial
    · trivial

def text : Double → String
  | .nan => "NaN"
  | .infinite negative => sign negative ++ "inf"
  | .zero negative => sign negative ++ "0"
  | .nonzero negative magnitude => sign negative ++ (shortest .away magnitude).positional

theorem floatLiteral_eq (x : Float) : Value.floatLiteral x = (ofBits x.toBits).text := rfl

end Decimal.Double

def strayWords : List String := ["NaN", "inf", "-inf"]

theorem not_isLiteral_of_stray {w : String} (stray : w ∈ strayWords) : ¬ IsLiteral w.toList := by
  have unlike : ∀ w ∈ strayWords, ¬ Begins w.toList := by simp [strayWords, Begins]
  exact fun literal => unlike w stray literal.begins

namespace Decimal.Double

theorem isLiteral_text {d : Double} (finite : d.IsFinite) : IsLiteral d.text.toList := by
  cases d with
  | nan | infinite _ => exact finite.elim
  | zero negative =>
    exact isLiteral_signed (.of_digits (by simp) (by simp [AreDigits])) negative
  | nonzero negative magnitude => exact isLiteral_signed (numeral_positional _) negative

theorem stray_text {d : Double} (beyond : ¬ d.IsFinite) : d.text ∈ strayWords := by
  cases d with
  | nan => simp [text, strayWords]
  | infinite negative => cases negative <;> simp [text, sign, strayWords]
  | zero _ | nonzero _ _ => exact absurd trivial beyond

theorem isLiteral_text_iff (bits : UInt64) :
    IsLiteral (ofBits bits).text.toList ↔ exponentBits bits ≠ 2047 := by
  rw [← isFinite_ofBits_iff]
  refine ⟨fun literal => ?_, isLiteral_text⟩
  by_contra beyond
  exact not_isLiteral_of_stray (stray_text beyond) literal

end Decimal.Double

namespace Value

open Decimal (Double)

def IsFinite : Value → Prop
  | .float x => Double.exponentBits x.toBits ≠ 2047
  | _ => True

theorem isLiteral_literal {v : Value} (finite : v.IsFinite) : IsLiteral v.literal.toList := by
  cases v with
  | null => exact .word (by simp [literal])
  | bool b => cases b <;> exact .word (by simp [literal])
  | int n =>
    rw [literal, Syntax.int_literal]
    exact isLiteral_signed (by simpa using numeral_toDigits _) _
  | float x => exact (Double.isLiteral_text_iff x.toBits).mpr finite
  | text s =>
    rw [literal, Quoted.toList_encode]
    exact .string (body_double s.toList)
  | blob bytes =>
    have pairs := hexPairs_hexByte bytes
    have quoted := Reference.encodeChars_of_not_mem pairs.quote_not_mem
    simpa [literal, quoted] using IsLiteral.bytes pairs

theorem stray_literal {v : Value} (beyond : ¬ v.IsFinite) : v.literal ∈ strayWords := by
  cases v with
  | float x => exact Double.stray_text (mt (Double.isFinite_ofBits_iff x.toBits).mp beyond)
  | _ => exact absurd trivial beyond

theorem isLiteral_literal_iff (v : Value) : IsLiteral v.literal.toList ↔ v.IsFinite := by
  refine ⟨fun isLiteral => ?_, isLiteral_literal⟩
  by_contra beyond
  exact not_isLiteral_of_stray (stray_literal beyond) isLiteral

theorem stray_literal_iff (v : Value) : v.literal ∈ strayWords ↔ ¬ v.IsFinite :=
  ⟨fun stray finite => not_isLiteral_of_stray stray (isLiteral_literal finite), stray_literal⟩

theorem reads_as_name_iff (v : Value) :
    (∃ part, Syntax.Token.name part ∈ Syntax.literalTokens v) ↔ ¬ v.IsFinite := by
  have unnamed (negative : Bool) (numeral : List Char) :
      ¬ ∃ part, Syntax.Token.name part ∈ Syntax.signed negative (.number numeral) := by
    cases negative <;> simp [Syntax.signed]
  cases v with
  | null => exact iff_of_false (by simp [Syntax.literalTokens]) (not_not.mpr trivial)
  | bool b =>
    exact iff_of_false (by cases b <;> simp [Syntax.literalTokens]) (not_not.mpr trivial)
  | int n => exact iff_of_false (unnamed _ _) (not_not.mpr trivial)
  | float x =>
    have bits := Double.isFinite_ofBits_iff x.toBits
    simp only [Syntax.literalTokens, IsFinite, ← bits]
    cases Double.ofBits x.toBits with
    | nan => exact iff_of_true ⟨_, List.mem_singleton_self _⟩ id
    | infinite negative =>
      refine iff_of_true ⟨"inf".toList, ?_⟩ id
      cases negative <;> simp [Syntax.signed]
    | zero _ | nonzero _ _ => exact iff_of_false (unnamed _ _) (not_not.mpr trivial)
  | text s => exact iff_of_false (by simp [Syntax.literalTokens]) (not_not.mpr trivial)
  | blob bytes => exact iff_of_false (by simp [Syntax.literalTokens]) (not_not.mpr trivial)

end Value

namespace Template

def ReadsApart (t : Template) (text : String) : Prop :=
  ∀ (front : Template) (v : Value) (back : Template), t = front ++ .value v :: back →
    text = front.inline ++ (v.literal ++ back.inline) ∧
      Syntax.scan .idle (v.literal.toList ++ back.inline.toList) =
        (Syntax.literalTokens v ++ ·) <$> Syntax.scan .idle back.inline.toList

theorem Apart.readsApart {t : Template} (apart : t.Apart) {text : String}
    (inline : text = t.inline) : t.ReadsApart text := by
  rintro front v back rfl
  exact ⟨by simp [inline], Syntax.lexes_literal v _ apart.behind.boundary⟩

end Template

namespace Mysql

open Decimal (Double)

theorem values_are_literals_iff_finite (config : Config) (k : Kind) :
    (∀ v : Value, (IsLiteral v.literal.toList ↔ v.IsFinite) ∧
      (v.literal ∈ strayWords ↔ ¬ v.IsFinite) ∧
      ((∃ part, Syntax.Token.name part ∈ Syntax.literalTokens v) ↔ ¬ v.IsFinite)) ∧
    (∀ x : Float, (Value.float x).literal = (Double.ofBits x.toBits).text) ∧
    (∀ bits : UInt64,
      IsLiteral (Double.ofBits bits).text.toList ↔ Double.exponentBits bits ≠ 2047) ∧
    (∀ s : Statement k, ∃ t : Template,
      TwoReadings t config.placeholder (s.toSql config) (s.prepare config) ∧
        t.values = s.values ∧ t.ReadsApart (s.toSql config)) ∧
    ∀ d : Draft k,
      let b := Builder.mk d (.withConfig config)
      ∃ t : Template, TwoReadings t config.placeholder b.toSql b.prepare ∧
        t.values = d.base.values ∧ t.ReadsApart b.toSql := by
  refine ⟨fun v => ⟨v.isLiteral_literal_iff, v.stray_literal_iff, v.reads_as_name_iff⟩,
    Double.floatLiteral_eq, Double.isLiteral_text_iff, fun s => ?_, fun d => ?_⟩
  · have readings := (s.clauses_gives config).twoReadings
    have apart := Template.Apart.ofFragments (Statement.apart_fragments config s)
    refine ⟨_, readings, ?_, apart.readsApart readings.inline⟩
    rw [Template.values_ofFragments, Statement.values_fragments]
  · have readings := (d.clauses_gives config).twoReadings
    refine ⟨_, readings, ?_, (d.apart config).readsApart readings.inline⟩
    rw [Template.values_ofFragments, Draft.values_fragments]

theorem small_float_is_literal :
    (Value.float (-1e-7)).literal = "-0.0000001" ∧
      IsLiteral "-0.0000001".toList := by
  obtain ⟨values, -⟩ := values_are_literals_iff_finite {} .select
  have finite : (Value.float (-1e-7)).IsFinite := by
    change Double.exponentBits _ ≠ 2047
    decide
  have text : (Value.float (-1e-7)).literal = "-0.0000001" := by decide +kernel
  exact ⟨text, text ▸ (values _).1.mpr finite⟩

-- A reader takes it for a column.
theorem not_a_number_reads_as_name :
    let v := Value.float (0.0 / 0.0)
    let s : Insert := { table := "t", rows := [[v]] }
    v.literal = "NaN" ∧ ¬ IsLiteral v.literal.toList ∧
      Syntax.literalTokens v = [.name "NaN".toList] ∧
      Statement.toSql (k := .insert) s {} = "INSERT INTO t VALUES (NaN)" := by
  intro v s
  have text : v.literal = "NaN" := by decide
  refine ⟨text, ?_, rfl, by decide +kernel⟩
  rw [text]
  exact not_isLiteral_of_stray (by simp [strayWords])

end Mysql

end SqlClauses
