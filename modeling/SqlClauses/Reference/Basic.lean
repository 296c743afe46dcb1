import SqlClauses.Quoted
import SqlClauses.Reference.Reserved

set_option autoImplicit false

namespace SqlClauses.Reference

def isIdentifier : List Char → Bool
  | [] => false
  | c :: rest =>
    (c.isAlpha || c == '_') && rest.all fun d => d.isAlphanum || d == '_' || d == '$'

def parts (reference : List Char) : List (List Char) :=
  reference.splitOn '.'

def isPlainPart (part : List Char) : Bool :=
  part == ['*'] || isIdentifier part

def isPlain (reference : List Char) : Bool :=
  (parts reference).all isPlainPart

def quotePart (quote : Char) (part : List Char) : List Char :=
  if isReserved part then Quoted.encodeChars quote part else part

def quoteChars (quote : Char) (reference : List Char) : List Char :=
  if isPlain reference then ['.'].intercalate ((parts reference).map (quotePart quote))
  else reference

def autoQuote (quote : Option Char) (reference : String) : String :=
  match quote with
  | none => reference
  | some q => String.ofList (quoteChars q reference.toList)

def qualify (table : Option String) (column : String) : String :=
  match table with
  | none => column
  | some t => if column.toList.contains '.' then column else t ++ "." ++ column

def column (quote : Option Char) (table : Option String) (name : String) : String :=
  autoQuote quote (qualify table name)

def columns (quote : Option Char) (names : List String) : Option String :=
  match names.filter (· ≠ "") with
  | [] => none
  | kept => some (", ".intercalate (kept.map (column quote none)))

end SqlClauses.Reference
