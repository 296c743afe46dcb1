import SqlClauses.Json.Text

set_option autoImplicit false

namespace SqlClauses.Json

def AreBlanks (w : List Char) : Prop := ∀ c ∈ w, c = ' ' ∨ c = '\t' ∨ c = '\n' ∨ c = '\r'

def HexDigit (c : Char) (n : Nat) : Prop :=
  n < 10 ∧ c.toNat = 48 + n ∨ 10 ≤ n ∧ n < 16 ∧ (c.toNat = 55 + n ∨ c.toNat = 87 + n)

-- What stands behind the backslash, and the character that it means.
def shortEscapes : List (Char × Char) :=
  [('"', '"'), ('\\', '\\'), ('/', '/'), ('b', '\x08'), ('f', '\x0c'), ('n', '\n'), ('r', '\r'),
    ('t', '\t')]

open Text (Glyph)

inductive Body : List Char → List Glyph → Prop where
  | nil : Body [] []
  | plain {c : Char} {w : List Char} {gs : List Glyph} (notQuote : c ≠ '"') (notEscape : c ≠ '\\')
      (printable : 32 ≤ c.toNat) (rest : Body w gs) : Body (c :: w) (.char c :: gs)
  | short {e c : Char} {w : List Char} {gs : List Glyph} (listed : (e, c) ∈ shortEscapes)
      (rest : Body w gs) : Body ('\\' :: e :: w) (.char c :: gs)
  | unit {a b c d : Char} {i j k l : Nat} {w : List Char} {gs : List Glyph}
      (first : HexDigit a i) (second : HexDigit b j) (third : HexDigit c k) (last : HexDigit d l)
      (rest : Body w gs) :
      Body ('\\' :: 'u' :: a :: b :: c :: d :: w)
        (.unit (((i * 16 + j) * 16 + k) * 16 + l) :: gs)

inductive Encodes : List Glyph → List Char → Prop where
  | nil : Encodes [] []
  | char {c : Char} {gs : List Glyph} {cs : List Char} (rest : Encodes gs cs) :
      Encodes (.char c :: gs) (c :: cs)
  | unit {c : Char} {gs : List Glyph} {cs : List Char} (basic : c.toNat < 0x10000)
      (rest : Encodes gs cs) : Encodes (.unit c.toNat :: gs) (c :: cs)
  | pair {c : Char} {gs : List Glyph} {cs : List Char} (beyond : 0x10000 ≤ c.toNat)
      (rest : Encodes gs cs) :
      Encodes (.unit (0xD800 + (c.toNat - 0x10000) / 0x400) ::
        .unit (0xDC00 + (c.toNat - 0x10000) % 0x400) :: gs) (c :: cs)

def Spells (w text : List Char) : Prop := ∃ gs, Body w gs ∧ Encodes gs text

def inQuotes (w : List Char) : List Char := '"' :: (w ++ ['"'])

def AreDigits (w : List Char) : Prop := ∀ c ∈ w, c.isDigit = true

inductive WholePart : List Char → Prop where
  | zero : WholePart ['0']
  | other {c : Char} {w : List Char} (notZero : c ≠ '0') (digits : AreDigits (c :: w)) :
      WholePart (c :: w)

inductive FractionPart : List Char → Prop where
  | absent : FractionPart []
  | present {w : List Char} (nonempty : w ≠ []) (digits : AreDigits w) : FractionPart ('.' :: w)

inductive ExponentPart : List Char → Prop where
  | absent : ExponentPart []
  | unsigned {e : Char} {w : List Char} (letter : e = 'e' ∨ e = 'E') (nonempty : w ≠ [])
      (digits : AreDigits w) : ExponentPart (e :: w)
  | signed {e sign : Char} {w : List Char} (letter : e = 'e' ∨ e = 'E')
      (signs : sign = '+' ∨ sign = '-') (nonempty : w ≠ []) (digits : AreDigits w) :
      ExponentPart (e :: sign :: w)

inductive Magnitude : List Char → Prop where
  | mk {w f x : List Char} (whole : WholePart w) (fraction : FractionPart f)
      (exponent : ExponentPart x) : Magnitude (w ++ (f ++ x))

inductive IsScalar : List Char → Prop where
  | null : IsScalar ['n', 'u', 'l', 'l']
  | yes : IsScalar ['t', 'r', 'u', 'e']
  | no : IsScalar ['f', 'a', 'l', 's', 'e']
  | number {w : List Char} (magnitude : Magnitude w) : IsScalar w
  | negative {w : List Char} (magnitude : Magnitude w) : IsScalar ('-' :: w)
  | string {w : List Char} {gs : List Glyph} (body : Body w gs) : IsScalar (inQuotes w)

abbrev Member := String × List Char

inductive MemberText : Member → List Char → Prop where
  | mk {name : String} {value w before behind : List Char} (spelled : Spells w name.toList)
      (scalar : IsScalar value) (blanksBefore : AreBlanks before)
      (blanksBehind : AreBlanks behind) :
      MemberText (name, value) (inQuotes w ++ (before ++ ':' :: (behind ++ value)))

inductive MembersText : List Member → List Char → Prop where
  | last {m : Member} {w : List Char} (member : MemberText m w) : MembersText [m] w
  | more {m : Member} {ms : List Member} {w rest before behind : List Char}
      (member : MemberText m w) (blanksBefore : AreBlanks before) (blanksBehind : AreBlanks behind)
      (others : MembersText ms rest) :
      MembersText (m :: ms) (w ++ (before ++ ',' :: (behind ++ rest)))

inductive ObjectText : List Member → List Char → Prop where
  | empty {before inside behind : List Char} (blanksBefore : AreBlanks before)
      (blanksInside : AreBlanks inside) (blanksBehind : AreBlanks behind) :
      ObjectText [] (before ++ '\x7b' :: (inside ++ '\x7d' :: behind))
  | members {ms : List Member} {w before first last behind : List Char}
      (members : MembersText ms w) (blanksBefore : AreBlanks before) (blanksFirst : AreBlanks first)
      (blanksLast : AreBlanks last) (blanksBehind : AreBlanks behind) :
      ObjectText ms (before ++ '\x7b' :: (first ++ (w ++ (last ++ '\x7d' :: behind))))

end SqlClauses.Json
