import SqlClauses.Json.Basic
import SqlClauses.Json.Numeral
import SqlClauses.Json.Text

set_option autoImplicit false

namespace SqlClauses.Json

namespace Reader

def isBlank (c : Char) : Bool := c == ' ' || c == '\t' || c == '\n' || c == '\r'

def skipBlanks (cs : List Char) : List Char := cs.dropWhile isBlank

def digits (cs : List Char) : Option (List Char × List Char) :=
  match cs.span Char.isDigit with
  | ([], _) => none
  | (ds, rest) => some (ds, rest)

def whole : List Char → Option (List Char × List Char)
  -- No zero stands in front of other digits.
  | '0' :: rest => some (['0'], rest)
  | cs => digits cs

def fraction : List Char → Option (List Char × List Char)
  | '.' :: rest => digits rest
  | cs => some ([], cs)

def exponentDigits (negative : Bool) (cs : List Char) : Option (Option Exponent × List Char) :=
  (digits cs).map fun (ds, rest) => (some ⟨negative, ds⟩, rest)

def exponentSign : List Char → Option (Option Exponent × List Char)
  | '-' :: rest => exponentDigits true rest
  | '+' :: rest => exponentDigits false rest
  | cs => exponentDigits false cs

def exponent : List Char → Option (Option Exponent × List Char)
  | 'e' :: rest => exponentSign rest
  | 'E' :: rest => exponentSign rest
  | cs => some (none, cs)

def unsigned (negative : Bool) (cs : List Char) : Option (Numeral × List Char) := do
  let (w, cs) ← whole cs
  let (f, cs) ← fraction cs
  let (e, cs) ← exponent cs
  return (⟨negative, w, f, e⟩, cs)

def numeral : List Char → Option (Numeral × List Char)
  | '-' :: rest => unsigned true rest
  | cs => unsigned false cs

mutual

def value : Nat → List Char → Option (Json × List Char)
  | 0, _ => none
  | _ + 1, 'n' :: 'u' :: 'l' :: 'l' :: rest => some (.null, rest)
  | _ + 1, 't' :: 'r' :: 'u' :: 'e' :: rest => some (.bool true, rest)
  | _ + 1, 'f' :: 'a' :: 'l' :: 's' :: 'e' :: rest => some (.bool false, rest)
  | _ + 1, '"' :: rest => (Text.read rest).map fun (text, after) => (.string text, after)
  | fuel + 1, '[' :: rest =>
    match skipBlanks rest with
    | ']' :: after => some (.array [], after)
    | cs => (items fuel cs).map fun (found, after) => (.array found, after)
  | fuel + 1, '\x7b' :: rest =>
    match skipBlanks rest with
    | '\x7d' :: after => some (.object [], after)
    | cs => (members fuel cs).map fun (found, after) => (.object found, after)
  | _ + 1, cs => (numeral cs).map fun (n, after) => (.number n.text, after)

def items : Nat → List Char → Option (List Json × List Char)
  | 0, _ => none
  | fuel + 1, cs => do
    let (item, cs) ← value fuel cs
    match skipBlanks cs with
    | ']' :: after => return ([item], after)
    | ',' :: rest =>
      let (others, after) ← items fuel (skipBlanks rest)
      return (item :: others, after)
    | _ => none

def members : Nat → List Char → Option (List (Option String × Json) × List Char)
  | 0, _ => none
  | fuel + 1, '"' :: cs => do
    let (key, cs) ← Text.read cs
    match skipBlanks cs with
    | ':' :: rest =>
      let (item, cs) ← value fuel (skipBlanks rest)
      match skipBlanks cs with
      | '\x7d' :: after => return ([(key, item)], after)
      | ',' :: rest =>
        let (others, after) ← members fuel (skipBlanks rest)
        return ((key, item) :: others, after)
      | _ => none
    | _ => none
  | _ + 1, _ => none

end

end Reader

-- The value that the whole text holds, blanks around it aside. Each level of nesting takes a
-- character and two calls.
def parse (text : String) : Option Json :=
  let cs := Reader.skipBlanks text.toList
  match Reader.value (2 * cs.length + 1) cs with
  | some (json, rest) => if (Reader.skipBlanks rest).isEmpty then some json else none
  | none => none

end SqlClauses.Json
