import Mathlib.Data.List.Basic
import SqlClauses.Expr.Basic
import SqlClauses.Reference.Reserved

set_option autoImplicit false

namespace SqlClauses.Syntax

inductive Keyword where
  | and
  | or
  | not
  | is
  | null
  | like
  | between
  | among
  | true
  | false
  -- Every other reserved word.
  | other
deriving DecidableEq

def keywords : List (String × Keyword) :=
  [("AND", .and), ("OR", .or), ("NOT", .not), ("IS", .is), ("NULL", .null), ("LIKE", .like),
   ("BETWEEN", .between), ("IN", .among), ("TRUE", .true), ("FALSE", .false)]

inductive Token where
  | name (part : List Char)
  | keyword (k : Keyword)
  | number (numeral : List Char)
  | string (text : List Char)
  | bytes (digits : List Char)
  | opening
  | closing
  | comma
  | dot
  | minus
  | operator (op : Comparison)
  | question
  | position (n : Nat)
  -- No text has one: it takes the place of a mark when parameters are bound.
  | value (v : Value)

def bareWord (word : List Char) : Token :=
  match keywords.lookup (String.ofList (word.map Char.toUpper)) with
  | some k => .keyword k
  | none => if Reference.isReserved word then .keyword .other else .name word

inductive Fence where
  | string
  | bytes
  | name (quote : Char)

namespace Fence

def quote : Fence → Char
  | .string => '\''
  | .bytes => '\''
  | .name q => q

def token : Fence → List Char → Token
  | .string, text => .string text
  | .bytes, digits => .bytes digits
  | .name _, part => .name part

end Fence

inductive Scan where
  | idle
  | word (read : List Char)
  | number (read : List Char)
  | position (read : List Char)
  | order (alone : Option Comparison) (withEqual : Comparison)
  | fenced (f : Fence) (read : List Char)
  -- A quote that ends the fence unless another one follows.
  | fenceEnd (f : Fence) (read : List Char)
  | whole (t : Token)

def isWordChar (c : Char) : Bool :=
  c.isAlphanum || c == '_' || c == '$'

namespace Scan

def extend : Scan → Char → Option Scan
  | .word read, c =>
    if isWordChar c then some (.word (read ++ [c]))
    -- The X in front of a quote was no word but the beginning of a byte string.
    else if c = '\'' ∧ (read = ['X'] ∨ read = ['x']) then some (.fenced .bytes [])
    else none
  | .number read, c => if c.isDigit || c == '.' then some (.number (read ++ [c])) else none
  | .position read, c => if c.isDigit then some (.position (read ++ [c])) else none
  | .order _ withEqual, c => if c = '=' then some (.whole (.operator withEqual)) else none
  | .fenced f read, c =>
    some (if c = f.quote then .fenceEnd f read else .fenced f (read ++ [c]))
  | .fenceEnd f read, c => if c = f.quote then some (.fenced f (read ++ [c])) else none
  | .idle, _ => none
  | .whole _, _ => none

def symbol : Char → Option Scan
  | ' ' => some .idle
  | '(' => some (.whole .opening)
  | ')' => some (.whole .closing)
  | ',' => some (.whole .comma)
  | '.' => some (.whole .dot)
  | '-' => some (.whole .minus)
  | '?' => some (.whole .question)
  | '$' => some (.position [])
  | '=' => some (.whole (.operator .eq))
  | '<' => some (.order (some .lt) .le)
  | '>' => some (.order (some .gt) .ge)
  | '!' => some (.order none .ne)
  | '\'' => some (.fenced .string [])
  | '"' => some (.fenced (.name '"') [])
  | '`' => some (.fenced (.name '`') [])
  | _ => none

def start (c : Char) : Option Scan :=
  if c.isDigit then some (.number [c])
  else if c.isAlpha || c == '_' then some (.word [c])
  else symbol c

def finish : Scan → Option (List Token)
  | .idle => some []
  | .word read => some [bareWord read]
  | .number read => some [.number read]
  | .position [] => none
  | .position read => some [.position (Nat.ofDigitChars 10 read 0)]
  | .order alone _ => alone.map fun op => [.operator op]
  | .fenced _ _ => none
  | .fenceEnd f read => some [f.token read]
  | .whole t => some [t]

end Scan

@[simp] theorem Scan.extend_idle (c : Char) : Scan.idle.extend c = none := rfl

@[simp] theorem Scan.finish_idle : Scan.idle.finish = some [] := rfl

def scan : Scan → List Char → Option (List Token)
  | s, [] => s.finish
  | s, c :: rest =>
    match s.extend c with
    | some s' => scan s' rest
    | none => do
      let read ← s.finish
      let begun ← Scan.start c
      (read ++ ·) <$> scan begun rest

def tokens (text : String) : Option (List Token) :=
  scan .idle text.toList

def Scan.Ends (s : Scan) (rest : List Char) : Prop :=
  ∀ c ∈ rest.head?, s.extend c = none

theorem scan_of_ends {s : Scan} {rest : List Char} (ends : s.Ends rest) :
    scan s rest = s.finish.bind fun read => (scan .idle rest).map (read ++ ·) := by
  cases rest with
  | nil => simp [scan]
  | cons c rest =>
    have apart : s.extend c = none := ends c rfl
    have begin : scan .idle (c :: rest) = (Scan.start c).bind fun begun => scan begun rest := by
      simp [scan]
    rw [scan, apart, begin]
    cases s.finish with
    | none => rfl
    | some read => cases Scan.start c <;> rfl

theorem scan_extended {s s' : Scan} (read : List Char)
    (h : read.foldlM Scan.extend s = some s') (rest : List Char) :
    scan s (read ++ rest) = scan s' rest := by
  induction read generalizing s with
  | nil =>
    cases h
    rfl
  | cons c read ih =>
    rw [List.foldlM_cons] at h
    obtain ⟨next, extended, h⟩ := Option.bind_eq_some_iff.mp h
    rw [List.cons_append, scan, extended]
    exact ih h

theorem scan_started {c : Char} {s : Scan} (h : Scan.start c = some s) (rest : List Char) :
    scan .idle (c :: rest) = scan s rest := by
  simp [scan, h]

theorem scan_fenced (f : Fence) (read text rest : List Char) :
    scan (.fenced f read) (Quoted.double f.quote text ++ f.quote :: rest) =
      scan (.fenceEnd f (read ++ text)) rest := by
  induction text generalizing read with
  | nil => simp [scan, Scan.extend]
  | cons c text ih =>
    rw [List.append_cons read c text, ← ih (read ++ [c])]
    by_cases same : c = f.quote
    -- The first of the two quotes seems to end the fence, the second one takes it back.
    · simp [Quoted.double, scan, Scan.extend, same]
    · simp [Quoted.double, scan, Scan.extend, same]

def Boundary (rest : List Char) : Prop :=
  ∀ c ∈ rest.head?, c = ' ' ∨ c = ',' ∨ c = ')'

def Lexes (text : List Char) (ts : List Token) : Prop :=
  ∀ rest, Boundary rest → scan .idle (text ++ rest) = (ts ++ ·) <$> scan .idle rest

theorem Boundary.nil : Boundary [] := by
  simp [Boundary]

theorem tokens_of_lexes {text : String} {ts : List Token} (h : Lexes text.toList ts) :
    tokens text = some ts := by
  have read := h [] .nil
  simpa [tokens, scan, Scan.finish] using read

theorem Lexes.of_scan {text : List Char} {s : Scan} {ts : List Token}
    (read : ∀ rest, scan .idle (text ++ rest) = scan s rest) (finish : s.finish = some ts)
    (ends : ∀ rest, Boundary rest → s.Ends rest) : Lexes text ts := by
  intro rest boundary
  rw [read, scan_of_ends (ends rest boundary), finish]
  simp

namespace Lexes

theorem space {text more : List Char} {ts us : List Token} (first : Lexes text ts)
    (second : Lexes more us) : Lexes (text ++ ' ' :: more) (ts ++ us) := by
  intro rest boundary
  have blank : Boundary (' ' :: (more ++ rest)) := by simp [Boundary]
  have skip : scan .idle (' ' :: (more ++ rest)) = scan .idle (more ++ rest) :=
    scan_started rfl _
  rw [List.append_assoc, List.cons_append, first _ blank, skip, second rest boundary]
  simp [Function.comp_def]

theorem symbol {c : Char} {t : Token} (h : Scan.start c = some (.whole t)) {more : List Char}
    {ts : List Token} (second : Lexes more ts) : Lexes (c :: more) (t :: ts) := by
  intro rest boundary
  have ends : (Scan.whole t).Ends (more ++ rest) := fun _ _ => rfl
  rw [List.cons_append, scan_started h, scan_of_ends ends, second rest boundary]
  simp [Scan.finish, Function.comp_def]

theorem nil : Lexes [] [] := by
  intro rest _
  simp

theorem parens {text : List Char} {ts : List Token} (inner : Lexes text ts) :
    Lexes ('(' :: (text ++ [')'])) (.opening :: (ts ++ [.closing])) := by
  refine symbol rfl ?_
  intro rest boundary
  have last : Lexes [')'] [.closing] := symbol rfl nil
  have close : Boundary (')' :: rest) := by simp [Boundary]
  have closed := last rest boundary
  rw [List.cons_append, List.nil_append] at closed
  rw [List.append_assoc, List.cons_append, List.nil_append, inner _ close, closed]
  simp [Function.comp_def]

theorem comma {text more : List Char} {ts us : List Token} (first : Lexes text ts)
    (second : Lexes more us) : Lexes (text ++ ',' :: more) (ts ++ .comma :: us) := by
  intro rest boundary
  have separator : Boundary (',' :: (more ++ rest)) := by simp [Boundary]
  have rest' : Lexes (',' :: more) (.comma :: us) := symbol rfl second
  have read := rest' rest boundary
  rw [List.cons_append] at read
  rw [List.append_assoc, List.cons_append, first _ separator, read]
  simp [Function.comp_def]

end Lexes

end SqlClauses.Syntax
