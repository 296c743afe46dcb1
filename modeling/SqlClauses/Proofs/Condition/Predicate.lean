import SqlClauses.Proofs.Condition.Literal
import SqlClauses.Proofs.Condition.Parsing

set_option autoImplicit false

namespace SqlClauses.Syntax

def NoDot (rest : List Token) : Prop :=
  ∀ part later, rest ≠ .dot :: .name part :: later

theorem furtherParts_of_noDot {rest : List Token} (h : NoDot rest) :
    furtherParts rest = ([], rest) := by
  unfold furtherParts
  split
  · exact absurd rfl (h _ _)
  · rfl

theorem furtherParts_path (part : List Char) (path : List (List Char)) {rest : List Token}
    (h : NoDot rest) :
    furtherParts (.dot :: (pathTokens (part :: path) ++ rest)) = (part :: path, rest) := by
  induction path generalizing part with
  | nil => simp [pathTokens, furtherParts, furtherParts_of_noDot h]
  | cons next path ih => simp [pathTokens, furtherParts, ih next]

theorem operand_path {path : List (List Char)} (nonempty : path ≠ []) {rest : List Token}
    (h : NoDot rest) : operand (pathTokens path ++ rest) = some (.reference path, rest) := by
  match path, nonempty with
  | [part], _ => simp [pathTokens, operand, unsignedOperand, furtherParts_of_noDot h]
  | part :: next :: path, _ =>
    simp [pathTokens, operand, unsignedOperand, furtherParts_path next path h]

structure Spelling where
  tokens : Value → List Token
  operand : Value → Operand
  reads : ∀ v rest, NoDot rest → Syntax.operand (tokens v ++ rest) = some (operand v, rest)

namespace Spelling

def bound : Spelling where
  tokens v := [.value v]
  operand := .value
  reads _ _ _ := rfl

def signedOperand (negative : Bool) (x : Operand) : Operand :=
  if negative then .negative x else x

def literalOperand : Value → Operand
  | .null => .null
  | .bool true => .true
  | .bool false => .false
  | .int n => signedOperand (n.toInt < 0) (.number (Nat.toDigits 10 n.toInt.natAbs))
  | .float x =>
    match Decimal.Double.ofBits x.toBits with
    | .nan => .reference ["NaN".toList]
    | .infinite negative => signedOperand negative (.reference ["inf".toList])
    | .zero negative => signedOperand negative (.number ['0'])
    | .nonzero negative magnitude =>
      signedOperand negative (.number (Decimal.shortest .away magnitude).positional.toList)
  | .text s => .string s.toList
  | .blob bytes => .bytes (bytes.flatMap Value.hexByte)

theorem operand_signed {t : Token} {x : Operand} {rest : List Token}
    (h : unsignedOperand (t :: rest) = some (x, rest)) (negative : Bool) :
    Syntax.operand (signed negative t ++ rest) = some (signedOperand negative x, rest) := by
  cases negative with
  | false =>
    cases t with
    | minus => cases h
    | _ => exact h
  | true => simp [signed, signedOperand, Syntax.operand, h]

theorem operand_literal (v : Value) {rest : List Token} (h : NoDot rest) :
    Syntax.operand (literalTokens v ++ rest) = some (literalOperand v, rest) := by
  have word (part : List Char) :
      unsignedOperand (.name part :: rest) = some (.reference [part], rest) := by
    simp [unsignedOperand, furtherParts_of_noDot h]
  cases v with
  | null => rfl
  | bool b => cases b <;> rfl
  | int n => exact operand_signed rfl _
  | float x =>
    simp only [literalTokens, literalOperand]
    cases Decimal.Double.ofBits x.toBits with
    | nan => exact word _
    | infinite negative => exact operand_signed (word _) negative
    | zero negative => exact operand_signed rfl negative
    | nonzero negative magnitude => exact operand_signed rfl negative
  | text s => rfl
  | blob bytes => rfl

def literal : Spelling where
  tokens := literalTokens
  operand := literalOperand
  reads v _ h := operand_literal v h

@[simp] theorem tokens_literal (v : Value) : literal.tokens v = literalTokens v := rfl

@[simp] theorem tokens_bound (v : Value) : bound.tokens v = [.value v] := rfl

variable (s : Spelling)

def token : Token → List Token
  | .value v => s.tokens v
  | t => [t]

attribute [simp] token

def fill (ts : List Token) : List Token :=
  ts.flatMap s.token

@[simp] theorem fill_nil : s.fill [] = [] := rfl

@[simp] theorem fill_cons (t : Token) (ts : List Token) :
    s.fill (t :: ts) = s.token t ++ s.fill ts := rfl

@[simp] theorem fill_append (ts us : List Token) : s.fill (ts ++ us) = s.fill ts ++ s.fill us :=
  List.flatMap_append

@[simp] theorem fill_path (path : List (List Char)) :
    s.fill (pathTokens path) = pathTokens path := by
  induction path with
  | nil => rfl
  | cons part path ih => cases path <;> simp_all [pathTokens]

end Spelling

theorem fill_bound (ts : List Token) : Spelling.bound.fill ts = ts := by
  induction ts with
  | nil => rfl
  | cons t ts ih =>
    cases t <;> simp [ih]

def operatorTokens : Comparison → List Token
  | .like => [.keyword .like]
  | .notLike => [.keyword .not, .keyword .like]
  | op => [.operator op]

@[simp] theorem Spelling.fill_operatorTokens (s : Spelling) (op : Comparison) :
    s.fill (operatorTokens op) = operatorTokens op := by
  cases op <;> rfl

def negation (negated : Bool) : List Token :=
  if negated then [.keyword .not] else []

@[simp] theorem Spelling.fill_negation (s : Spelling) (negated : Bool) :
    s.fill (negation negated) = negation negated := by
  cases negated <;> rfl

def listSlots : List Value → List Token
  | [] => []
  | [v] => [.value v]
  | v :: next :: rest => .value v :: .comma :: listSlots (next :: rest)

theorem noDot_keyword (k : Keyword) (rest : List Token) : NoDot (.keyword k :: rest) := by
  intro part later same
  cases same

theorem noDot_of_stops {level : Level} {rest : List Token} (h : level.Stops rest) :
    NoDot rest := by
  rintro part later rfl
  have stopped := h .dot rfl
  cases level with
  | negation => cases stopped
  | chain c => cases c <;> cases stopped

section

variable (s : Spelling) {path : List (List Char)} (named : path ≠ [])

include named

theorem predicate_path {ts rest : List Token} {a : Atom} (behind : NoDot ts)
    (h : predicateOf (.reference path) ts = some (a, rest)) :
    predicate (pathTokens path ++ ts) = some (a, rest) := by
  rw [predicate, operand_path named behind]
  exact h

theorem parses_compare (op : Comparison) (v : Value) :
    Parses .negation (pathTokens path ++ (operatorTokens op ++ s.tokens v))
      (.atom (.compare (.reference path) op (s.operand v))) := by
  refine .predicate fun rest stops => ?_
  have right := s.reads v rest (noDot_of_stops stops)
  rw [List.append_assoc, List.append_assoc]
  refine predicate_path named ?_ ?_
  · intro part later
    cases op <;> simp [operatorTokens]
  · cases op <;> simp [operatorTokens, predicateOf, negatable, right]

theorem parses_isNull (negated : Bool) :
    Parses .negation
      (pathTokens path ++ .keyword .is :: (negation negated ++ [.keyword .null]))
      (.atom (.isNull (.reference path) negated)) := by
  refine .predicate fun rest _ => ?_
  rw [List.append_assoc]
  refine predicate_path named (noDot_keyword _ _) ?_
  cases negated <;> simp [negation, predicateOf]

theorem parses_between (negated : Bool) (low high : Value) :
    Parses .negation
      (pathTokens path ++ (negation negated ++ .keyword .between ::
        (s.tokens low ++ .keyword .and :: s.tokens high)))
      (.atom (.between (.reference path) negated (s.operand low) (s.operand high))) := by
  refine .predicate fun rest stops => ?_
  have last := s.reads high rest (noDot_of_stops stops)
  have first := s.reads low (.keyword .and :: (s.tokens high ++ rest)) (noDot_keyword _ _)
  rw [List.append_assoc]
  refine predicate_path named ?_ ?_
  · intro part later
    cases negated <;> simp [negation]
  · cases negated <;> simp [negation, predicateOf, negatable, first, last]

omit named in
theorem operands_listSlots (v : Value) (values : List Value) (rest : List Token) :
    ∀ fuel, values.length + 1 ≤ fuel →
      operands fuel (s.fill (listSlots (v :: values)) ++ .closing :: rest) =
        some ((v :: values).map s.operand, rest) := by
  induction values generalizing v with
  | nil =>
    intro fuel enough
    cases fuel with
    | zero => omega
    | succ fuel =>
      have read := s.reads v (.closing :: rest) (by intro part later; simp)
      simp [listSlots, operands, read]
  | cons next values ih =>
    intro fuel enough
    cases fuel with
    | zero => omega
    | succ fuel =>
      simp only [List.length_cons] at enough
      have more := ih next fuel (by omega)
      have read := s.reads v (.comma :: (s.fill (listSlots (next :: values)) ++ .closing :: rest))
        (by intro part later; simp)
      simp [listSlots, operands, read, more]

omit named in
theorem length_listSlots (v : Value) (values : List Value) :
    values.length ≤ (s.fill (listSlots (v :: values))).length := by
  induction values generalizing v with
  | nil => exact Nat.zero_le _
  | cons next values ih =>
    have more := ih next
    simp only [listSlots, Spelling.fill_cons, Spelling.token, List.length_append, List.length_cons]
    omega

theorem parses_among (negated : Bool) (v : Value) (values : List Value) :
    Parses .negation
      (pathTokens path ++ (negation negated ++ .keyword .among :: .opening ::
        (s.fill (listSlots (v :: values)) ++ [.closing])))
      (.atom (.among (.reference path) negated ((v :: values).map s.operand))) := by
  refine .predicate fun rest _ => ?_
  have enough := length_listSlots s v values
  have listed := operands_listSlots s v values rest
    (s.fill (listSlots (v :: values)) ++ .closing :: rest).length
    (by rw [List.length_append, List.length_cons]; omega)
  rw [List.append_assoc]
  refine predicate_path named ?_ ?_
  · intro part later
    cases negated <;> simp [negation]
  · cases negated <;> simp_all [negation, predicateOf, negatable]

end

def constantAtom (holds : Bool) : Atom :=
  .compare (.number ['1']) .eq (.number [if holds then '1' else '0'])

def constantTokens (holds : Bool) : List Token :=
  [.number ['1'], .operator .eq, .number [if holds then '1' else '0']]

theorem parses_constant (holds : Bool) :
    Parses .negation (constantTokens holds) (.atom (constantAtom holds)) :=
  .predicate fun _ _ => rfl

end SqlClauses.Syntax
