import SqlClauses.Dialect
import SqlClauses.Proofs.Quoted.Reading

set_option autoImplicit false

namespace SqlClauses.Quoted

variable {quote : Char}

theorem eq_double_of_read {input text behind : List Char}
    (found : read quote input = some (text, behind)) :
    input = double quote text ++ quote :: behind ∧ Closes quote behind := by
  fun_induction read quote input generalizing text behind with
  | case1 => cases found
  | case2 =>
    cases found
    simp [Closes]
  | case3 later ih =>
    obtain ⟨⟨inner, rest⟩, read, same⟩ := Option.map_eq_some_iff.mp found
    cases same
    obtain ⟨rfl, closes⟩ := ih read
    exact ⟨by simp [double], closes⟩
  | case4 d later other =>
    cases found
    exact ⟨rfl, by simpa [Closes] using other⟩
  | case5 c rest other ih =>
    obtain ⟨⟨inner, behind⟩, read, same⟩ := Option.map_eq_some_iff.mp found
    cases same
    obtain ⟨rfl, closes⟩ := ih read
    exact ⟨by simp [double, other], closes⟩

theorem read_eq_some_iff {input text behind : List Char} :
    read quote input = some (text, behind) ↔
      input = double quote text ++ quote :: behind ∧ Closes quote behind := by
  constructor
  · exact eq_double_of_read
  · rintro ⟨rfl, closes⟩
    exact read_double closes text

def readQuoted (quote : Char) (input : String) : Option (String × String) :=
  match input.toList with
  | [] => none
  | c :: rest =>
    if c = quote then
      (read quote rest).map fun (text, behind) => (String.ofList text, String.ofList behind)
    else none

theorem toList_encode_append (text behind : String) :
    (encode quote text ++ behind).toList =
      quote :: (double quote text.toList ++ quote :: behind.toList) := by
  simp [encodeChars]

theorem readQuoted_eq_some_iff {input text behind : String} :
    readQuoted quote input = some (text, behind) ↔
      input = encode quote text ++ behind ∧ Closes quote behind.toList := by
  rw [← String.toList_inj, toList_encode_append, readQuoted]
  cases input.toList with
  | nil => simp
  | cons c rest =>
    by_cases opens : c = quote
    · have parts (found left : List Char) :
          (String.ofList found, String.ofList left) = (text, behind) ↔
            found = text.toList ∧ left = behind.toList := by
        rw [Prod.mk.injEq, ← String.toList_inj, ← String.toList_inj, String.toList_ofList,
          String.toList_ofList]
      simp [opens, Option.map_eq_some_iff, parts, read_eq_some_iff]
    · simp [opens]

theorem encode_append_inj {text other behind rest : String} (closes : Closes quote behind.toList)
    (alsoCloses : Closes quote rest.toList)
    (same : encode quote text ++ behind = encode quote other ++ rest) :
    text = other ∧ behind = rest := by
  have read : readQuoted quote (encode quote text ++ behind) = some (text, behind) :=
    readQuoted_eq_some_iff.mpr ⟨rfl, closes⟩
  have again : readQuoted quote (encode quote text ++ behind) = some (other, rest) :=
    readQuoted_eq_some_iff.mpr ⟨same, alsoCloses⟩
  rw [read] at again
  exact Prod.mk.inj (Option.some.inj again)

-- What is written for a text is read back up to its closing quote, whatever follows that does not
-- begin with another quote.
structure Delimits (quote : Char) (write : String → String) : Prop where
  reads : ∀ text behind : String,
    readQuoted quote (write text ++ behind) = some (text, behind) ↔ Closes quote behind.toList
  finds : ∀ input text behind : String,
    readQuoted quote input = some (text, behind) ↔
      input = write text ++ behind ∧ Closes quote behind.toList
  injective : Function.Injective write
  apart : ∀ text other behind rest : String, Closes quote behind.toList →
    Closes quote rest.toList → write text ++ behind = write other ++ rest →
      text = other ∧ behind = rest

theorem delimits_encode (quote : Char) : Delimits quote (encode quote) where
  reads text behind := by simp [readQuoted_eq_some_iff]
  finds _ _ _ := readQuoted_eq_some_iff
  injective text other same := by
    have ends : Closes quote "".toList := by simp [Closes]
    exact (encode_append_inj ends ends (congrArg (· ++ "") same)).1
  apart _ _ _ _ := encode_append_inj

theorem quoted_text_delimits_itself (quote : Char) (d : Dialect) :
    Delimits quote (encode quote) ∧ Delimits d.quote d.quoteIdentifier :=
  ⟨delimits_encode quote, delimits_encode d.quote⟩

example :
    encode 'é' "éaéé" = "éééaééééé" ∧
      readQuoted 'é' "éééaééééé = éx" = some ("éaéé", " = éx") := by
  decide +kernel

end SqlClauses.Quoted
