import Mathlib.Data.List.TakeDrop
import SqlClauses.Json.Reader
import SqlClauses.Proofs.Json.Grammar

set_option autoImplicit false

namespace SqlClauses.Json

def Stops (p : Char → Bool) (rest : List Char) : Prop := ∀ c ∈ rest.head?, p c = false

theorem span_stops {p : Char → Bool} {w rest : List Char} (all : ∀ c ∈ w, p c = true)
    (stops : Stops p rest) : (w ++ rest).span p = (w, rest) := by
  have noneTaken : rest.takeWhile p = [] := by
    cases rest with
    | nil => rfl
    | cons c rest => simp [stops c (by simp)]
  have noneDropped : rest.dropWhile p = rest := by
    cases rest with
    | nil => rfl
    | cons c rest => simp [stops c (by simp)]
  rw [List.span_eq_takeWhile_dropWhile, List.takeWhile_append_of_pos all,
    List.dropWhile_append_of_pos all, noneTaken, noneDropped, List.append_nil]

theorem AreBlanks.skip {w rest : List Char} (blanks : AreBlanks w)
    (stops : Stops Reader.isBlank rest) : Reader.skipBlanks (w ++ rest) = rest := by
  have all : ∀ c ∈ w, Reader.isBlank c = true := by
    intro c member
    rcases blanks c member with rfl | rfl | rfl | rfl <;> rfl
  have split := span_stops all stops
  rw [List.span_eq_takeWhile_dropWhile] at split
  exact congrArg Prod.snd split

theorem AreBlanks.skip_cons {w : List Char} (blanks : AreBlanks w) (c : Char) (rest : List Char)
    (shown : Reader.isBlank c = false) : Reader.skipBlanks (w ++ c :: rest) = c :: rest := by
  apply blanks.skip
  rintro d ⟨⟩
  exact shown

theorem AreBlanks.skip_all {w : List Char} (blanks : AreBlanks w) : Reader.skipBlanks w = [] := by
  have skipped : Reader.skipBlanks (w ++ []) = [] := blanks.skip (by simp [Stops])
  rwa [List.append_nil] at skipped

namespace Text

theorem hexValue_of_hexDigit {c : Char} {n : Nat} (digit : HexDigit c n) : hexValue c = some n := by
  have lower : 'a' ≤ c ∧ c ≤ 'f' ↔ 97 ≤ c.toNat ∧ c.toNat ≤ 102 := by
    simp [Char.le_def, UInt32.le_iff_toNat_le]
  have upper : 'A' ≤ c ∧ c ≤ 'F' ↔ 65 ≤ c.toNat ∧ c.toNat ≤ 70 := by
    simp [Char.le_def, UInt32.le_iff_toNat_le]
  have decimal : c.isDigit = true ↔ 48 ≤ c.toNat ∧ c.toNat ≤ 57 := by
    simp [Char.isDigit, UInt32.le_iff_toNat_le]
  unfold hexValue
  simp only [lower, upper, decimal]
  rcases digit with ⟨small, code⟩ | ⟨least, most, code | code⟩
  · rw [if_pos (by omega), code]
    simp
  · rw [if_neg (by omega), if_neg (by omega), if_pos (by omega), code]
    simp
  · rw [if_neg (by omega), if_pos (by omega), code]
    simp

theorem shortEscape_of_listed {e c : Char} (listed : (e, c) ∈ shortEscapes) :
    shortEscape e = some c ∧ e ≠ 'u' := by
  simp only [shortEscapes, List.mem_cons, Prod.mk.injEq, List.not_mem_nil, or_false] at listed
  rcases listed with h | h | h | h | h | h | h | h <;> obtain ⟨rfl, rfl⟩ := h <;> decide

theorem glyphs_body {w : List Char} {gs : List Glyph} (body : Body w gs) (rest : List Char) :
    glyphs (w ++ '"' :: rest) = some (gs, rest) := by
  induction body with
  | nil => rfl
  | plain notQuote notEscape printable _ ih =>
    simp [glyphs, notEscape, ih, Nat.not_lt.mpr printable]
  | short listed _ ih =>
    obtain ⟨means, notUnit⟩ := shortEscape_of_listed listed
    simp [glyphs, means, notUnit, ih]
  | @unit a b c d i j k l _ _ first second third last _ ih =>
    have value : unitValue a b c d = some (((i * 16 + j) * 16 + k) * 16 + l) := by
      simp only [unitValue, hexValue_of_hexDigit first, hexValue_of_hexDigit second,
        hexValue_of_hexDigit third, hexValue_of_hexDigit last]
      apply congrArg some
      omega
    simp [glyphs, value, ih]

theorem not_surrogate (c : Char) : isHigh c.toNat = false ∧ isLow c.toNat = false := by
  have valid : c.toNat < 0xD800 ∨ 0xDFFF < c.toNat ∧ c.toNat < 0x110000 := c.valid
  simp only [isHigh, isLow, Bool.and_eq_false_iff, decide_eq_false_iff_not]
  omega

theorem characters_unit {c : Char} {gs : List Glyph} {cs : List Char}
    (rest : characters gs = some cs) : characters (.unit c.toNat :: gs) = some (c :: cs) := by
  obtain ⟨notHigh, notLow⟩ := not_surrogate c
  cases gs with
  | nil => simpa [characters, notHigh, notLow] using rest
  | cons g gs => cases g <;> simpa [characters, notHigh, notLow] using rest

theorem characters_pair {c : Char} {gs : List Glyph} {cs : List Char} (beyond : 0x10000 ≤ c.toNat)
    (rest : characters gs = some cs) :
    characters (.unit (0xD800 + (c.toNat - 0x10000) / 0x400) ::
      .unit (0xDC00 + (c.toNat - 0x10000) % 0x400) :: gs) = some (c :: cs) := by
  have valid : c.toNat < 0xD800 ∨ 0xDFFF < c.toNat ∧ c.toNat < 0x110000 := c.valid
  have high : isHigh (0xD800 + (c.toNat - 0x10000) / 0x400) = true := by
    simp only [isHigh, Bool.and_eq_true, decide_eq_true_eq]
    omega
  have low : isLow (0xDC00 + (c.toNat - 0x10000) % 0x400) = true := by
    simp only [isLow, Bool.and_eq_true, decide_eq_true_eq]
    omega
  have code : 0x10000 + (0xD800 + (c.toNat - 0x10000) / 0x400 - 0xD800) * 0x400 +
      (0xDC00 + (c.toNat - 0x10000) % 0x400 - 0xDC00) = c.toNat := by omega
  rw [characters, high, low, code, rest, Char.ofNat_toNat]
  rfl

theorem characters_encodes {gs : List Glyph} {cs : List Char} (encodes : Encodes gs cs) :
    characters gs = some cs := by
  induction encodes with
  | nil => rfl
  | char _ ih => simp [characters, ih]
  | unit _ _ ih => exact characters_unit ih
  | pair beyond _ ih => exact characters_pair beyond ih

theorem read_spells {w : List Char} {text : String} (spells : Spells w text.toList)
    (rest : List Char) : read (w ++ '"' :: rest) = some (some text, rest) := by
  obtain ⟨gs, body, encodes⟩ := spells
  simp [read, glyphs_body body, characters_encodes encodes]

end Text

-- The characters that a numeral may go on with, before and behind the start of its exponent.
def inFraction (c : Char) : Bool := c.isDigit || c == '.'

def inNumeral (c : Char) : Bool := inFraction c || c == 'e' || c == 'E'

theorem Stops.inFraction {rest : List Char} (stops : Stops inNumeral rest) :
    Stops inFraction rest := by
  intro c head
  have ends := stops c head
  simp only [inNumeral, Bool.or_eq_false_iff] at ends
  exact ends.1.1

theorem Stops.isDigit {rest : List Char} (stops : Stops Json.inFraction rest) :
    Stops Char.isDigit rest := by
  intro c head
  have ends := stops c head
  simp only [Json.inFraction, Bool.or_eq_false_iff] at ends
  exact ends.1

theorem ExponentPart.stops {x rest : List Char} (part : ExponentPart x)
    (stops : Stops inNumeral rest) : Stops inFraction (x ++ rest) := by
  cases part with
  | absent => exact stops.inFraction
  | unsigned letter =>
    rcases letter with rfl | rfl <;> rintro c ⟨⟩ <;> rfl
  | signed letter =>
    rcases letter with rfl | rfl <;> rintro c ⟨⟩ <;> rfl

theorem FractionPart.stops {f rest : List Char} (part : FractionPart f)
    (stops : Stops inFraction rest) : Stops Char.isDigit (f ++ rest) := by
  cases part with
  | absent => exact stops.isDigit
  | present => rintro c ⟨⟩; rfl

namespace Reader

theorem digits_stops {w rest : List Char} (nonempty : w ≠ []) (all : AreDigits w)
    (stops : Stops Char.isDigit rest) : digits (w ++ rest) = some (w, rest) := by
  unfold digits
  rw [span_stops all stops]
  cases w with
  | nil => exact absurd rfl nonempty
  | cons c w => rfl

theorem whole_part {w rest : List Char} (part : WholePart w) (stops : Stops Char.isDigit rest) :
    whole (w ++ rest) = some (w, rest) := by
  cases part with
  | zero => rfl
  | @other c w notZero all =>
    have read := digits_stops (by simp) all stops
    rw [List.cons_append] at read ⊢
    rw [whole, read]
    simpa using notZero

theorem fraction_part {f : List Char} (part : FractionPart f) :
    ∃ ds, ∀ rest, Stops inFraction rest → fraction (f ++ rest) = some (ds, rest) := by
  cases part with
  | absent =>
    refine ⟨[], fun rest stops => ?_⟩
    cases rest with
    | nil => rfl
    | cons c rest =>
      have ends := stops c rfl
      rw [List.nil_append, fraction]
      rintro tail ⟨⟩
      simp [inFraction] at ends
  | @present w nonempty all =>
    exact ⟨w, fun rest stops => digits_stops nonempty all stops.isDigit⟩

theorem exponentSign_unsigned {w rest : List Char} (nonempty : w ≠ []) (all : AreDigits w)
    (stops : Stops Char.isDigit rest) :
    exponentSign (w ++ rest) = some (some ⟨false, w⟩, rest) := by
  have read := digits_stops nonempty all stops
  cases w with
  | nil => exact absurd rfl nonempty
  | cons c w =>
    have digit := all c (by simp)
    rw [List.cons_append] at read ⊢
    rw [exponentSign]
    · simp [exponentDigits, read]
    · rintro tail ⟨⟩
      simp at digit
    · rintro tail ⟨⟩
      simp at digit

theorem exponentSign_signed {sign : Char} {w rest : List Char} (signs : sign = '+' ∨ sign = '-')
    (nonempty : w ≠ []) (all : AreDigits w) (stops : Stops Char.isDigit rest) :
    exponentSign (sign :: (w ++ rest)) = some (some ⟨sign == '-', w⟩, rest) := by
  have read := digits_stops nonempty all stops
  rcases signs with rfl | rfl <;> simp [exponentSign, exponentDigits, read]

theorem exponent_part {x : List Char} (part : ExponentPart x) :
    ∃ e, ∀ rest, Stops inNumeral rest → exponent (x ++ rest) = some (e, rest) := by
  cases part with
  | absent =>
    refine ⟨none, fun rest stops => ?_⟩
    cases rest with
    | nil => rfl
    | cons c rest =>
      have ends := stops c rfl
      rw [List.nil_append, exponent]
      all_goals
        rintro tail ⟨⟩
        simp [inNumeral] at ends
  | @unsigned e w letter nonempty all =>
    refine ⟨some ⟨false, w⟩, fun rest stops => ?_⟩
    have read := exponentSign_unsigned nonempty all stops.inFraction.isDigit
    rcases letter with rfl | rfl <;> exact read
  | @signed e sign w letter signs nonempty all =>
    refine ⟨some ⟨sign == '-', w⟩, fun rest stops => ?_⟩
    have read := exponentSign_signed signs nonempty all stops.inFraction.isDigit
    rcases letter with rfl | rfl <;> exact read

theorem unsigned_magnitude {w : List Char} (magnitude : Magnitude w) (negative : Bool) :
    ∃ n, ∀ rest, Stops inNumeral rest → unsigned negative (w ++ rest) = some (n, rest) := by
  obtain @⟨w, f, x, wholePart, fractionPart, exponentPart⟩ := magnitude
  obtain ⟨ds, readFraction⟩ := fraction_part fractionPart
  obtain ⟨e, readExponent⟩ := exponent_part exponentPart
  refine ⟨⟨negative, w, ds, e⟩, fun rest stops => ?_⟩
  have afterFraction := exponentPart.stops stops
  have afterWhole := fractionPart.stops afterFraction
  simp [unsigned, whole_part wholePart afterWhole, readFraction _ afterFraction,
    readExponent _ stops]

theorem head_digit {w : List Char} (magnitude : Magnitude w) :
    ∃ c tail, w = c :: tail ∧ c.isDigit = true := by
  obtain ⟨whole, _, _⟩ := magnitude
  cases whole with
  | zero => exact ⟨'0', _, rfl, rfl⟩
  | other _ digits => exact ⟨_, _, rfl, digits _ (by simp)⟩

theorem value_number {w : List Char} (magnitude : Magnitude w) :
    ∃ n, ∀ fuel rest, Stops inNumeral rest →
      value (fuel + 1) (w ++ rest) = some (.number n, rest) := by
  obtain ⟨n, read⟩ := unsigned_magnitude magnitude false
  obtain ⟨c, tail, rfl, digit⟩ := head_digit magnitude
  refine ⟨n.text, fun fuel rest stops => ?_⟩
  have found := read rest stops
  rw [List.cons_append] at found ⊢
  rw [value, numeral, found]
  · rfl
  -- A digit begins neither a sign nor another kind of value.
  all_goals
    intro _ same
    obtain ⟨rfl, -⟩ := List.cons.inj same
    simp at digit

theorem value_negative {w : List Char} (magnitude : Magnitude w) :
    ∃ n, ∀ fuel rest, Stops inNumeral rest →
      value (fuel + 1) ('-' :: (w ++ rest)) = some (.number n, rest) := by
  obtain ⟨n, read⟩ := unsigned_magnitude magnitude true
  refine ⟨n.text, fun fuel rest stops => ?_⟩
  simp [value, numeral, read rest stops]

theorem value_scalar {w : List Char} (scalar : IsScalar w) :
    ∃ json, ∀ fuel rest, Stops inNumeral rest →
      value (fuel + 1) (w ++ rest) = some (json, rest) := by
  cases scalar with
  | null => exact ⟨.null, fun _ _ _ => by simp [value]⟩
  | yes => exact ⟨.bool true, fun _ _ _ => by simp [value]⟩
  | no => exact ⟨.bool false, fun _ _ _ => by simp [value]⟩
  | number magnitude =>
    obtain ⟨n, read⟩ := value_number magnitude
    exact ⟨.number n, read⟩
  | negative magnitude =>
    obtain ⟨n, read⟩ := value_negative magnitude
    exact ⟨.number n, read⟩
  | @string w gs body =>
    refine ⟨.string ((Text.characters gs).map String.ofList), fun fuel rest _ => ?_⟩
    have read := Text.glyphs_body body rest
    simp [inQuotes, value, Text.read, read]

end Reader

def reading (w : List Char) : Json := ((Reader.value 1 w).map Prod.fst).getD .null

theorem reading_of_value {w : List Char} {json : Json}
    (read : ∀ fuel rest, Stops inNumeral rest →
      Reader.value (fuel + 1) (w ++ rest) = some (json, rest)) : reading w = json := by
  have alone := read 0 [] (by simp [Stops])
  rw [List.append_nil] at alone
  simp [reading, alone]

theorem value_reading {w rest : List Char} (scalar : IsScalar w) (fuel : Nat)
    (stops : Stops inNumeral rest) :
    Reader.value (fuel + 1) (w ++ rest) = some (reading w, rest) := by
  obtain ⟨json, read⟩ := Reader.value_scalar scalar
  rw [read fuel rest stops, reading_of_value read]

theorem reading_inQuotes {w : List Char} {text : String} (spells : Spells w text.toList) :
    reading (inQuotes w) = .string (some text) := by
  have read := Text.read_spells spells []
  simp [reading, inQuotes, Reader.value, read]

theorem IsScalar.head {w : List Char} (scalar : IsScalar w) :
    ∃ c tail, w = c :: tail ∧ Reader.isBlank c = false := by
  cases scalar with
  | null | yes | no => exact ⟨_, _, rfl, rfl⟩
  | negative | string => exact ⟨_, _, rfl, rfl⟩
  | number magnitude =>
    obtain ⟨c, tail, rfl, digit⟩ := Reader.head_digit magnitude
    refine ⟨c, tail, rfl, ?_⟩
    simp only [Reader.isBlank, Bool.or_eq_false_iff, beq_eq_false_iff_ne]
    refine ⟨⟨⟨?_, ?_⟩, ?_⟩, ?_⟩ <;> rintro rfl <;> simp at digit

theorem AreBlanks.stops {w : List Char} (blanks : AreBlanks w) (c : Char) (rest : List Char)
    (ends : inNumeral c = false) : Stops inNumeral (w ++ c :: rest) := by
  cases w with
  | nil => rintro d ⟨⟩; exact ends
  | cons b w =>
    rintro d ⟨⟩
    rcases blanks b (by simp) with rfl | rfl | rfl | rfl <;> rfl

theorem MembersText.head {ms : List Member} {w : List Char} (members : MembersText ms w) :
    ∃ tail, w = '"' :: tail := by
  cases members with
  | last member => obtain ⟨_, _, _, _⟩ := member; exact ⟨_, rfl⟩
  | more member => obtain ⟨_, _, _, _⟩ := member; exact ⟨_, rfl⟩

theorem MembersText.length_le {ms : List Member} {w : List Char} (members : MembersText ms w) :
    ms.length ≤ w.length := by
  induction members with
  | last member =>
    cases member
    simp [inQuotes]
  | more _ _ _ _ ih =>
    simp only [List.length_cons, List.length_append]
    omega

namespace Reader

-- What stands behind a member decides whether others follow.
theorem members_member {m : Member} {w rest : List Char} (member : MemberText m w) (fuel : Nat)
    (stops : Stops inNumeral rest) :
    (∀ after, skipBlanks rest = '\x7d' :: after →
      members (fuel + 2) (w ++ rest) = some ([(some m.1, reading m.2)], after)) ∧
    ∀ cs others after, skipBlanks rest = ',' :: cs →
      members (fuel + 1) (skipBlanks cs) = some (others, after) →
      members (fuel + 2) (w ++ rest) = some ((some m.1, reading m.2) :: others, after) := by
  cases member with
  | @mk name value w before behind spelled scalar blanksBefore blanksBehind =>
    have key := Text.read_spells spelled (before ++ ':' :: (behind ++ (value ++ rest)))
    have colon : skipBlanks (before ++ ':' :: (behind ++ (value ++ rest))) =
        ':' :: (behind ++ (value ++ rest)) := blanksBefore.skip_cons ':' _ rfl
    have start : skipBlanks (behind ++ (value ++ rest)) = value ++ rest := by
      obtain ⟨c, tail, begins, shown⟩ := scalar.head
      rw [begins]
      exact blanksBehind.skip_cons c _ shown
    have item := value_reading scalar fuel stops
    simp only [inQuotes, List.cons_append, List.append_assoc, List.nil_append]
    rw [members, key]
    simp only [Option.bind_eq_bind, Option.bind_some, colon, start, item]
    constructor
    · intro after close
      rw [close]
      rfl
    · intro cs others after comma later
      rw [comma]
      simp only [later, Option.bind_some]
      rfl

theorem members_text {ms : List Member} {w : List Char} (text : MembersText ms w)
    {last : List Char} (blanks : AreBlanks last) (after : List Char) (fuel : Nat)
    (enough : ms.length < fuel) :
    members fuel (w ++ (last ++ '\x7d' :: after)) =
      some (ms.map fun m => (some m.1, reading m.2), after) := by
  induction text generalizing fuel with
  | @last m w member =>
    obtain ⟨fuel, rfl⟩ : ∃ n, fuel = n + 2 := ⟨fuel - 2, by simp at enough; omega⟩
    have stops := blanks.stops '\x7d' after rfl
    exact (members_member member fuel stops).1 after (blanks.skip_cons '\x7d' after rfl)
  | @more m ms w rest before behind member blanksBefore blanksBehind others ih =>
    obtain ⟨fuel, rfl⟩ : ∃ n, fuel = n + 2 := ⟨fuel - 2, by simp at enough; omega⟩
    have later := ih (fuel + 1) (by simp at enough; omega)
    obtain ⟨tail, begins⟩ := others.head
    have comma := blanksBefore.skip_cons ',' (behind ++ (rest ++ (last ++ '\x7d' :: after))) rfl
    have start : skipBlanks (behind ++ (rest ++ (last ++ '\x7d' :: after))) =
        rest ++ (last ++ '\x7d' :: after) := by
      rw [begins]
      exact blanksBehind.skip_cons '"' _ rfl
    rw [← start] at later
    have stops := blanksBefore.stops ',' (behind ++ (rest ++ (last ++ '\x7d' :: after))) rfl
    have found := (members_member member fuel stops).2 _ _ _ comma later
    simpa using found

theorem value_empty {inside : List Char} (blanks : AreBlanks inside) (behind : List Char)
    (fuel : Nat) :
    value (fuel + 1) ('\x7b' :: (inside ++ '\x7d' :: behind)) = some (.object [], behind) := by
  rw [value, blanks.skip_cons '\x7d' behind rfl]
  rfl

theorem value_members {ms : List Member} {w : List Char} (text : MembersText ms w)
    {first last : List Char} (blanksFirst : AreBlanks first) (blanksLast : AreBlanks last)
    (behind : List Char) (fuel : Nat) (enough : ms.length < fuel) :
    value (fuel + 1) ('\x7b' :: (first ++ (w ++ (last ++ '\x7d' :: behind)))) =
      some (.object (ms.map fun m => (some m.1, reading m.2)), behind) := by
  have found := members_text text blanksLast behind fuel enough
  obtain ⟨tail, rfl⟩ := text.head
  have start : skipBlanks (first ++ '"' :: (tail ++ (last ++ '\x7d' :: behind))) =
      '"' :: (tail ++ (last ++ '\x7d' :: behind)) := blanksFirst.skip_cons '"' _ rfl
  rw [List.cons_append] at found ⊢
  rw [value, start]
  change (members fuel _).map _ = _
  rw [found]
  rfl

end Reader

theorem parse_value {text : String} {before inside behind : List Char} {c : Char} {json : Json}
    (same : text.toList = before ++ c :: inside) (shown : Reader.isBlank c = false)
    (found : Reader.value (2 * (inside.length + 1) + 1) (c :: inside) = some (json, behind))
    (blanksBefore : AreBlanks before) (blanksBehind : AreBlanks behind) :
    parse text = some json := by
  have start := blanksBefore.skip_cons c inside shown
  simp only [parse, same, start, List.length_cons, found, blanksBehind.skip_all]
  rfl

theorem parse_scalar {text : String} (scalar : IsScalar text.toList) :
    parse text = some (reading text.toList) := by
  obtain ⟨c, inside, begins, shown⟩ := scalar.head
  have blanks : AreBlanks [] := by simp [AreBlanks]
  have stops : Stops inNumeral [] := by simp [Stops]
  have found := value_reading scalar (2 * (inside.length + 1)) stops
  rw [begins, List.append_nil] at found
  rw [begins]
  exact parse_value (by simpa using begins) shown found blanks blanks

theorem reading_ne_null {w : List Char} (scalar : IsScalar w) (other : w ≠ ['n', 'u', 'l', 'l']) :
    reading w ≠ .null := by
  cases scalar with
  | null => exact absurd rfl other
  | yes | no => simp [reading, Reader.value]
  | number magnitude =>
    obtain ⟨n, read⟩ := Reader.value_number magnitude
    simp [reading_of_value read]
  | @negative w magnitude =>
    obtain ⟨n, read⟩ := Reader.value_negative magnitude
    simp [reading_of_value (w := '-' :: w) read]
  | @string w gs body =>
    have found := Text.glyphs_body body []
    simp [reading, inQuotes, Reader.value, Text.read, found]

theorem parse_object {ms : List Member} {text : String} (object : ObjectText ms text.toList) :
    parse text = some (.object (ms.map fun m => (some m.1, reading m.2))) := by
  generalize same : text.toList = cs at object
  cases object with
  | empty blanksBefore blanksInside blanksBehind =>
    exact parse_value same rfl (Reader.value_empty blanksInside _ _) blanksBefore blanksBehind
  | members members blanksBefore blanksFirst blanksLast blanksBehind =>
    have least := members.length_le
    apply parse_value same rfl _ blanksBefore blanksBehind
    apply Reader.value_members members blanksFirst blanksLast
    simp only [List.length_cons, List.length_append]
    omega

end SqlClauses.Json
