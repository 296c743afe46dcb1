import SqlClauses.Proofs.Quoted.Reading
import SqlClauses.Proofs.Template.Apart

set_option autoImplicit false

namespace SqlClauses.Mysql

def readLiteral (escape : Char → List Char) : List Char → Option (List Char × List Char)
  | '\'' :: rest => Quoted.readEscaped escape '\'' rest
  | _ => none

theorem readLiteral_text (escape : Char → List Char) (s : String) (rest : List Char) :
    readLiteral escape ((Value.text s).literal.toList ++ rest) =
      Quoted.readEscaped escape '\'' (Quoted.double '\'' s.toList ++ '\'' :: rest) := by
  simp [Value.literal, Quoted.encodeChars, readLiteral]

theorem text_literals_read_back (config : Config) (k : Kind) :
    (∀ (escape : Char → List Char) (s : String) (rest : List Char), '\\' ∉ s.toList →
      Quoted.Closes '\'' rest →
        readLiteral escape ((Value.text s).literal.toList ++ rest) = some (s.toList, rest)) ∧
    (∀ (escape : Char → Char) (s : String) (rest : List Char), Quoted.Closes '\'' rest →
      (readLiteral (fun c => [escape c]) ((Value.text s).literal.toList ++ rest) =
        some (s.toList, rest) ↔ '\\' ∉ s.toList)) ∧
    ∀ d : Draft k,
      let b := Builder.mk d (.withConfig config)
      let t := Template.ofFragments (d.fragments config)
      TwoReadings t config.placeholder b.toSql b.prepare ∧ t.values = d.base.values ∧
        ∀ (front : Template) (s : String) (back : Template),
          t = front ++ .value (.text s) :: back → '\\' ∉ s.toList →
            b.toSql = front.inline ++ ((Value.text s).literal ++ back.inline) ∧
            ∀ escape : Char → List Char,
              readLiteral escape ((Value.text s).literal.toList ++ back.inline.toList) =
                some (s.toList, back.inline.toList) := by
  have plainText (escape : Char → List Char) (s : String) (rest : List Char)
      (plain : '\\' ∉ s.toList) (closes : Quoted.Closes '\'' rest) :
      readLiteral escape ((Value.text s).literal.toList ++ rest) = some (s.toList, rest) := by
    rw [readLiteral_text]
    exact Quoted.readEscaped_double escape (by decide) closes plain
  refine ⟨plainText, ?exact, ?statement⟩
  case exact =>
    intro escape s rest closes
    refine ⟨fun read member => ?_, fun plain => plainText _ s rest plain closes⟩
    rw [readLiteral_text] at read
    exact Quoted.not_readEscaped_double escape (by decide) member rest read
  case statement =>
    intro d b t
    have readings : TwoReadings t config.placeholder b.toSql b.prepare :=
      (d.clauses_gives config).twoReadings
    refine ⟨readings, ?_, fun front s back split plain => ⟨?_, fun escape => ?_⟩⟩
    · rw [Template.values_ofFragments, Draft.values_fragments]
    · rw [readings.inline, split]
      simp
    · have apart : t.Apart := d.apart config
      rw [split] at apart
      exact plainText escape s _ plain (Quoted.closes_of_boundary apart.behind.boundary)

theorem quote_in_row_reads_back :
    let d : Draft .insert := ⟨({ table := "t", rows := [[.text "it's", .null]] } : Insert), {}⟩
    let b := Builder.mk d (.withConfig {})
    b.toSql = "INSERT INTO t VALUES ('it''s', NULL)" ∧
      ∀ escape : Char → List Char,
        readLiteral escape "'it''s', NULL)".toList = some ("it's".toList, ", NULL)".toList) := by
  intro d b
  obtain ⟨-, -, statement⟩ := text_literals_read_back {} .insert
  obtain ⟨-, -, reads⟩ := statement d
  obtain ⟨text, back⟩ := reads
    [.text "INSERT", .text " ", .text ("INTO " ++ Config.column {} "t"), .text " ",
      .text "VALUES ", .text "("] "it's"
    [.text ", ", .value .null, .text ")"] rfl (by decide)
  refine ⟨?_, fun escape => ?_⟩
  · rw [text]
    decide +kernel
  · simpa [Value.literal, Quoted.encode, Quoted.encodeChars, Quoted.double] using back escape

-- The backslash takes the closing quote with it, so the literal goes on to the opening quote of the
-- next value, and that value is read as part of the statement.
theorem backslash_takes_closing_quote :
    let d : Draft .insert :=
      ⟨({ table := "t", rows := [[.text "\\", .text ", 0); DROP TABLE t; -- "]] } : Insert), {}⟩
    let b := Builder.mk d (.withConfig Dialect.mysql.config)
    b.toSql = "INSERT INTO t VALUES ('\\', ', 0); DROP TABLE t; -- ')" ∧
      ∀ escape : Char → List Char,
        readLiteral escape "'\\', ', 0); DROP TABLE t; -- ')".toList =
            some (escape '\'' ++ ", ".toList, ", 0); DROP TABLE t; -- ')".toList) ∧
          readLiteral escape "'\\', ', 0); DROP TABLE t; -- ')".toList ≠
            some ("\\".toList, ", ', 0); DROP TABLE t; -- ')".toList) := by
  intro d b
  have text : b.toSql = "INSERT INTO t VALUES ('\\', ', 0); DROP TABLE t; -- ')" := by
    decide +kernel
  refine ⟨text, fun escape => ?_⟩
  have read : readLiteral escape "'\\', ', 0); DROP TABLE t; -- ')".toList =
      some (escape '\'' ++ ", ".toList, ", 0); DROP TABLE t; -- ')".toList) := by
    simp [readLiteral, Quoted.readEscaped]
  refine ⟨read, ?_⟩
  rw [read]
  simp

end SqlClauses.Mysql
