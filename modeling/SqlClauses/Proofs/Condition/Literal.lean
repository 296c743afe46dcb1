import SqlClauses.Proofs.Template.Expr
import SqlClauses.Proofs.Condition.Token

set_option autoImplicit false

namespace SqlClauses

namespace Reference

def IsPath (reference : String) : Prop :=
  ∀ part ∈ parts reference.toList, isIdentifier part = true

instance (reference : String) : Decidable (IsPath reference) :=
  inferInstanceAs (Decidable (∀ part ∈ parts reference.toList, isIdentifier part = true))

theorem isPath_qualify {table : Option String} {column : String} (named : IsPath column)
    (qualified : ∀ t ∈ table, IsPath t) : IsPath (qualify table column) := by
  cases table with
  | none => exact named
  | some t =>
    by_cases dotted : column.toList.contains '.'
    · rw [qualify, if_pos dotted]
      exact named
    · intro part member
      rw [qualify, if_neg dotted] at member
      have split : parts (t ++ "." ++ column).toList =
          parts t.toList ++ parts column.toList := by
        simp [parts, List.splitOn_append_cons_self]
      rw [split] at member
      rcases List.mem_append.mp member with inTable | inColumn
      · exact qualified t rfl part inTable
      · exact named part inColumn

theorem quoteChars_of_isPath (quote : Char) {reference : String} (path : IsPath reference) :
    quoteChars quote reference.toList =
      ['.'].intercalate ((parts reference.toList).map (quotePart quote)) := by
  have plain : isPlain reference.toList = true := by
    rw [isPlain, List.all_eq_true]
    intro part member
    simp [isPlainPart, path part member]
  rw [quoteChars, if_pos plain]

end Reference

namespace Column

def IsPath (c : Column) : Prop :=
  Reference.IsPath c.name ∧ ∀ t ∈ c.table, Reference.IsPath t

instance (c : Column) : Decidable c.IsPath :=
  inferInstanceAs (Decidable (Reference.IsPath c.name ∧ ∀ t ∈ c.table, Reference.IsPath t))

def path (c : Column) : List (List Char) :=
  Reference.parts (Reference.qualify c.table c.name).toList

theorem path_ne_nil (c : Column) : c.path ≠ [] :=
  List.splitOn_ne_nil _ _

end Column

namespace Syntax

theorem keywords_reserved : ∀ entry ∈ keywords, entry.1 ∈ Reference.reservedWords := by
  simp [keywords, Reference.reservedWords]

theorem bareWord_of_not_reserved {word : List Char} (free : Reference.isReserved word = false) :
    bareWord word = .name word := by
  have unlisted : keywords.lookup (String.ofList (word.map Char.toUpper)) = none := by
    rw [List.lookup_eq_none_iff]
    intro entry member
    have listed := keywords_reserved entry member
    rw [bne_iff_ne]
    intro same
    rw [← same] at listed
    simp [Reference.isReserved, listed] at free
  rw [bareWord, unlisted]
  simp [free]

theorem foldlM_extend {state : List Char → Scan} (belongs : Char → Bool)
    (goesOn : ∀ read c, belongs c = true → (state read).extend c = some (state (read ++ [c])))
    {text : List Char} (all : ∀ c ∈ text, belongs c = true) (read : List Char) :
    text.foldlM Scan.extend (state read) = some (state (read ++ text)) := by
  induction text generalizing read with
  | nil => simp
  | cons c text ih =>
    rw [List.foldlM_cons, goesOn read c (all c (by simp))]
    have later := ih (fun d member => all d (by simp [member])) (read ++ [c])
    rw [List.append_assoc] at later
    exact later

theorem start_of_digit {c : Char} (digit : c.isDigit = true) :
    Scan.start c = some (.number [c]) := by
  rw [Scan.start, if_pos digit]

theorem isDigit_of_isAlpha {c : Char} (alpha : c.isAlpha = true) : c.isDigit = false := by
  rw [Bool.eq_false_iff]
  intro digit
  have below : c.val ≤ '9'.val := of_decide_eq_true (Bool.and_eq_true_iff.mp digit).2
  have above : 'A'.val ≤ c.val := by
    rcases Bool.or_eq_true_iff.mp alpha with upper | lower
    · exact (of_decide_eq_true upper).1
    · have small : 'a'.val ≤ c.val := of_decide_eq_true (Bool.and_eq_true_iff.mp lower).1
      exact UInt32.le_trans (by decide) small
  exact absurd (UInt32.le_trans above below) (by decide)

theorem start_of_letter {c : Char} (letter : (c.isAlpha || c == '_') = true) :
    Scan.start c = some (.word [c]) := by
  have apart : c.isDigit = false := by
    rcases Bool.or_eq_true_iff.mp letter with alpha | underscore
    · exact isDigit_of_isAlpha alpha
    · rw [beq_iff_eq.mp underscore]
      rfl
  rw [Scan.start, apart, if_neg Bool.false_ne_true, if_pos letter]

def PartBoundary (rest : List Char) : Prop :=
  ∀ c ∈ rest.head?, c = '.' ∨ c = ' ' ∨ c = ',' ∨ c = ')'

theorem scan_word {word : List Char} (plain : Reference.isIdentifier word = true)
    {rest : List Char} (boundary : PartBoundary rest) :
    scan .idle (word ++ rest) = (bareWord word :: ·) <$> scan .idle rest := by
  cases word with
  | nil => simp [Reference.isIdentifier] at plain
  | cons c word =>
    obtain ⟨letter, letters⟩ := (Bool.and_eq_true _ _).mp plain
    have run : word.foldlM Scan.extend (.word [c]) = some (.word ([c] ++ word)) := by
      refine foldlM_extend isWordChar ?_ ?_ [c]
      · intro read d belongs
        simp [Scan.extend, belongs]
      · intro d member
        simpa [isWordChar] using List.all_eq_true.mp letters d member
    have ends : (Scan.word (c :: word)).Ends rest := by
      intro d first
      rcases boundary d first with rfl | rfl | rfl | rfl <;> simp [Scan.extend, isWordChar]
    rw [List.cons_append, scan_started (start_of_letter letter), scan_extended _ run,
      List.singleton_append, scan_of_ends ends]
    simp [Scan.finish]

theorem lexes_word {word : List Char} (plain : Reference.isIdentifier word = true) :
    Lexes word [bareWord word] :=
  fun _ boundary => scan_word plain fun c first => .inr (boundary c first)

theorem keywords_listed : ∀ entry ∈ keywords,
    Reference.isIdentifier entry.1.toList = true ∧
      keywords.lookup (String.ofList (entry.1.toList.map Char.toUpper)) = some entry.2 := by
  decide +kernel

theorem lexes_keyword (word : String) (k : Keyword) (listed : (word, k) ∈ keywords) :
    Lexes word.toList [.keyword k] := by
  obtain ⟨plain, found⟩ := keywords_listed _ listed
  have token : bareWord word.toList = .keyword k := by rw [bareWord, found]
  rw [← token]
  exact lexes_word plain

theorem scan_encoded {f : Fence} (begun : Scan.start f.quote = some (.fenced f []))
    {text rest : List Char} (apart : ∀ c ∈ rest.head?, c ≠ f.quote) :
    scan .idle (Quoted.encodeChars f.quote text ++ rest) =
      (f.token text :: ·) <$> scan .idle rest := by
  have ends : (Scan.fenceEnd f text).Ends rest := by
    intro c first
    simp [Scan.extend, apart c first]
  have inside : scan (.fenced f []) (Quoted.double f.quote text ++ f.quote :: rest) =
      scan (.fenceEnd f text) rest := scan_fenced f [] text rest
  rw [Quoted.encodeChars, List.cons_append, scan_started begun, List.append_assoc,
    List.singleton_append, inside, scan_of_ends ends]
  simp [Scan.finish]

theorem scan_part {quote : Char} (known : quote = '"' ∨ quote = '`') {part : List Char}
    (plain : Reference.isIdentifier part = true) {rest : List Char} (boundary : PartBoundary rest) :
    scan .idle (Reference.quotePart quote part ++ rest) =
      (Token.name part :: ·) <$> scan .idle rest := by
  -- A part is in quotes exactly if it would not read as a name without them.
  by_cases reserved : Reference.isReserved part = true
  · have begun : Scan.start quote = some (.fenced (.name quote) []) := by
      rcases known with rfl | rfl <;> rfl
    have apart : ∀ c ∈ rest.head?, c ≠ quote := by
      intro c first
      rcases boundary c first with rfl | rfl | rfl | rfl <;> rcases known with rfl | rfl <;>
        decide
    rw [Reference.quotePart, if_pos reserved]
    exact scan_encoded (f := .name quote) begun apart
  · rw [Reference.quotePart, if_neg reserved, scan_word plain boundary,
      bareWord_of_not_reserved (Bool.eq_false_iff.mpr reserved)]

def pathTokens : List (List Char) → List Token
  | [] => []
  | [part] => [.name part]
  | part :: next :: rest => .name part :: .dot :: pathTokens (next :: rest)

theorem lexes_path {quote : Char} (known : quote = '"' ∨ quote = '`') (path : List (List Char))
    (plain : ∀ part ∈ path, Reference.isIdentifier part = true) :
    Lexes (['.'].intercalate (path.map (Reference.quotePart quote))) (pathTokens path) := by
  induction path with
  | nil => exact .nil
  | cons part path ih =>
    intro rest boundary
    cases path with
    | nil =>
      have stop : PartBoundary rest := fun c first => .inr (boundary c first)
      simpa [pathTokens] using scan_part known (plain part (by simp)) stop
    | cons next path =>
      -- A point may follow a part, but not every token: a number would go on with it.
      have later := Lexes.symbol (c := '.') (t := .dot) rfl
        (ih fun p member => plain p (by simp [member])) rest boundary
      have stop : PartBoundary ('.' :: (['.'].intercalate
          ((next :: path).map (Reference.quotePart quote)) ++ rest)) := by simp [PartBoundary]
      have first := scan_part known (plain part (by simp)) stop
      rw [List.cons_append] at later
      rw [List.map_cons, List.map_cons, List.intercalate_cons_cons, ← List.map_cons,
        List.append_assoc, List.append_assoc, List.singleton_append, first, later]
      simp [pathTokens, Function.comp_def]

theorem lexes_column {config : Config} {quote : Char} (configured : config.quote = some quote)
    (known : quote = '"' ∨ quote = '`') {c : Column} (path : c.IsPath) :
    Lexes (c.text config).toList (pathTokens c.path) := by
  have qualified := Reference.isPath_qualify path.1 path.2
  have text : (c.text config).toList =
      ['.'].intercalate (c.path.map (Reference.quotePart quote)) := by
    rw [Column.text, Config.qualifiedColumn, Reference.column, configured, Reference.autoQuote,
      String.toList_ofList, Reference.quoteChars_of_isPath quote qualified, Column.path]
  rw [text]
  exact lexes_path known c.path qualified

def IsNumeral (numeral : List Char) : Prop :=
  ∃ first rest, numeral = first :: rest ∧ first.isDigit = true ∧
    ∀ c ∈ rest, (c.isDigit || c == '.') = true

theorem IsNumeral.append {numeral more : List Char} (h : IsNumeral numeral)
    (plain : ∀ c ∈ more, (c.isDigit || c == '.') = true) : IsNumeral (numeral ++ more) := by
  obtain ⟨first, rest, rfl, digit, digits⟩ := h
  refine ⟨first, rest ++ more, rfl, digit, ?_⟩
  intro c member
  rcases List.mem_append.mp member with old | new
  · exact digits c old
  · exact plain c new

theorem isNumeral_of_digits {digits : List Char} (nonempty : digits ≠ [])
    (all : ∀ c ∈ digits, c.isDigit = true) : IsNumeral digits := by
  obtain ⟨first, rest, rfl⟩ := List.exists_cons_of_ne_nil nonempty
  refine ⟨first, rest, rfl, all first (by simp), ?_⟩
  intro c member
  simp [all c (by simp [member])]

theorem digit_of_mem_toDigits {n : Nat} {c : Char} (member : c ∈ Nat.toDigits 10 n) :
    c.isDigit = true :=
  Nat.isDigit_of_mem_toDigits (by decide) (by decide) member

theorem isNumeral_toDigits (n : Nat) : IsNumeral (Nat.toDigits 10 n) :=
  isNumeral_of_digits Nat.toDigits_ne_nil fun _ => digit_of_mem_toDigits

theorem isNumeral_positional (d : Decimal) : IsNumeral d.positional.toList := by
  have digit : ∀ c ∈ Nat.toDigits 10 d.digits, (c.isDigit || c == '.') = true := by
    intro c member
    simp [digit_of_mem_toDigits member]
  have zero : ∀ count, ∀ c ∈ List.replicate count '0', (c.isDigit || c == '.') = true := by
    intro count c member
    rw [List.eq_of_mem_replicate member]
    rfl
  simp only [Decimal.positional]
  split
  · simpa [Decimal.zeros] using (isNumeral_toDigits d.digits).append (zero _)
  · split
    next inside =>
      have whole : IsNumeral ((Nat.toDigits 10 d.digits).take
          ((Nat.toDigits 10 d.digits).length - (-d.exponent).toNat)) := by
        refine isNumeral_of_digits ?_ fun c member =>
          digit_of_mem_toDigits (List.mem_of_mem_take member)
        rw [← List.length_pos_iff, List.length_take]
        omega
      have point : ∀ c ∈ '.' :: (Nat.toDigits 10 d.digits).drop
          ((Nat.toDigits 10 d.digits).length - (-d.exponent).toNat),
          (c.isDigit || c == '.') = true := by
        intro c member
        rcases List.mem_cons.mp member with rfl | member
        · rfl
        · exact digit c (List.mem_of_mem_drop member)
      simpa using whole.append point
    next =>
      have start : IsNumeral ['0', '.'] := ⟨'0', ['.'], rfl, rfl, by simp⟩
      simpa [Decimal.zeros] using (start.append (zero _)).append digit

theorem lexes_number {numeral : List Char} (h : IsNumeral numeral) :
    Lexes numeral [.number numeral] := by
  obtain ⟨first, more, rfl, digit, digits⟩ := h
  have run : more.foldlM Scan.extend (.number [first]) = some (.number ([first] ++ more)) := by
    refine foldlM_extend (fun c => c.isDigit || c == '.') ?_ digits [first]
    intro read c belongs
    simp only [Scan.extend, belongs, if_true]
  refine Lexes.of_scan (s := .number (first :: more)) ?_ rfl ?_
  · intro rest
    rw [List.cons_append, scan_started (start_of_digit digit), scan_extended _ run,
      List.singleton_append]
  · intro rest boundary c head
    rcases boundary c head with rfl | rfl | rfl <;> rfl

def signed (negative : Bool) (t : Token) : List Token :=
  if negative then [.minus, t] else [t]

def literalTokens : Value → List Token
  | .null => [.keyword .null]
  | .bool true => [.keyword .true]
  | .bool false => [.keyword .false]
  | .int n => signed (n.toInt < 0) (.number (Nat.toDigits 10 n.toInt.natAbs))
  | .float x =>
    match Decimal.Double.ofBits x.toBits with
    -- What is not a number is written as a word.
    | .nan => [.name "NaN".toList]
    | .infinite negative => signed negative (.name "inf".toList)
    | .zero negative => signed negative (.number ['0'])
    | .nonzero negative magnitude =>
      signed negative (.number (Decimal.shortest .away magnitude).positional.toList)
  | .text s => [.string s.toList]
  | .blob bytes => [.bytes (bytes.flatMap Value.hexByte)]

theorem lexes_signed {text : String} {t : Token} (h : Lexes text.toList [t]) (negative : Bool) :
    Lexes (Decimal.sign negative ++ text).toList (signed negative t) := by
  cases negative with
  | false => simpa [Decimal.sign, signed] using h
  | true => simpa [Decimal.sign, signed] using Lexes.symbol (c := '-') (t := .minus) rfl h

theorem lexes_encoded {f : Fence} (begun : Scan.start f.quote = some (.fenced f []))
    (apart : ∀ c, c = ' ' ∨ c = ',' ∨ c = ')' → c ≠ f.quote) (text : List Char) :
    Lexes (Quoted.encodeChars f.quote text) [f.token text] :=
  fun _ boundary => scan_encoded begun fun c first => apart c (boundary c first)

theorem int_literal (n : Int) :
    toString n = Decimal.sign (n < 0) ++ String.ofList (Nat.toDigits 10 n.natAbs) := by
  cases n with
  | ofNat n =>
    have text : toString (Int.ofNat n) = n.repr := rfl
    have positive : ¬ (n : Int) < 0 := by omega
    rw [text, Nat.repr_eq_ofList_toDigits]
    simp [Decimal.sign, positive]
  | negSucc n =>
    have text : toString (Int.negSucc n) = "-" ++ (n + 1).repr := rfl
    rw [text, Nat.repr_eq_ofList_toDigits]
    simp [Decimal.sign]

theorem lexes_floatLiteral (x : Float) :
    Lexes (Value.floatLiteral x).toList (literalTokens (.float x)) := by
  have word {w : String} (plain : Reference.isIdentifier w.toList = true)
      (free : Reference.isReserved w.toList = false) : Lexes w.toList [.name w.toList] := by
    rw [← bareWord_of_not_reserved free]
    exact lexes_word plain
  simp only [Value.floatLiteral, literalTokens]
  cases Decimal.Double.ofBits x.toBits with
  | nan => exact word (by decide) (by decide +kernel)
  | infinite negative => exact lexes_signed (word (by decide) (by decide +kernel)) negative
  | zero negative => exact lexes_signed (lexes_number ⟨'0', [], rfl, rfl, by simp⟩) negative
  | nonzero negative magnitude =>
    exact lexes_signed (lexes_number (isNumeral_positional _)) negative

theorem lexes_literal (v : Value) : Lexes v.literal.toList (literalTokens v) := by
  cases v with
  | null => exact lexes_keyword "NULL" .null (by simp [keywords])
  | bool b =>
    cases b with
    | false => exact lexes_keyword "FALSE" .false (by simp [keywords])
    | true => exact lexes_keyword "TRUE" .true (by simp [keywords])
  | int n =>
    rw [Value.literal, int_literal, literalTokens]
    refine lexes_signed ?_ _
    rw [String.toList_ofList]
    exact lexes_number (isNumeral_toDigits _)
  | float x => exact lexes_floatLiteral x
  | text s =>
    rw [Value.literal, Quoted.toList_encode]
    exact lexes_encoded (f := .string) rfl (by rintro c (rfl | rfl | rfl) <;> decide) s.toList
  | blob bytes =>
    have apart : ∀ c, c = ' ' ∨ c = ',' ∨ c = ')' → c ≠ Fence.bytes.quote := by
      rintro c (rfl | rfl | rfl) <;> decide
    intro rest boundary
    have ends : (Scan.fenceEnd .bytes (bytes.flatMap Value.hexByte)).Ends rest := by
      intro c first
      simp [Scan.extend, apart c (boundary c first)]
    have begun : scan .idle ('X' :: '\'' :: (Quoted.double '\'' (bytes.flatMap Value.hexByte) ++
        '\'' :: rest)) = scan (.fenced .bytes []) (Quoted.double '\''
          (bytes.flatMap Value.hexByte) ++ '\'' :: rest) := by
      rw [scan_started (start_of_letter rfl)]
      exact scan_extended ['\''] rfl _
    have inside : scan (.fenced .bytes []) (Quoted.double '\'' (bytes.flatMap Value.hexByte) ++
        '\'' :: rest) = scan (.fenceEnd .bytes (bytes.flatMap Value.hexByte)) rest :=
      scan_fenced .bytes [] (bytes.flatMap Value.hexByte) rest
    simp [Value.literal, Quoted.encodeChars, begun, inside, scan_of_ends ends, Scan.finish,
      Fence.token, literalTokens]

def markToken : Placeholder → Nat → Token
  | .question, _ => .question
  | .numbered, position => .position position

theorem lexes_mark (style : Placeholder) (position : Nat) :
    Lexes (style.mark position).toList [markToken style position] := by
  cases style with
  | question =>
    simpa [Placeholder.mark, markToken] using Lexes.symbol (c := '?') (t := .question) rfl .nil
  | numbered =>
    have run : (Nat.toDigits 10 position).foldlM Scan.extend (.position []) =
        some (.position ([] ++ Nat.toDigits 10 position)) := by
      refine foldlM_extend Char.isDigit ?_ ?_ []
      · intro read c digit
        simp [Scan.extend, digit]
      · exact fun _ => digit_of_mem_toDigits
    refine Lexes.of_scan (s := .position (Nat.toDigits 10 position)) ?_ ?_ ?_
    · intro rest
      have text : (Placeholder.mark .numbered position).toList =
          '$' :: Nat.toDigits 10 position := by simp [Placeholder.mark]
      rw [text, List.cons_append, scan_started rfl, scan_extended _ run, List.nil_append]
    · have value := Nat.ofDigitChars_ten_toDigits (n := position)
      obtain ⟨first, more, digits⟩ := List.exists_cons_of_ne_nil
        (Nat.toDigits_ne_nil (n := position) (b := 10))
      rw [digits] at value ⊢
      simp [Scan.finish, value, markToken]
    · intro rest boundary c head
      rcases boundary c head with rfl | rfl | rfl <;> rfl

end Syntax

end SqlClauses
