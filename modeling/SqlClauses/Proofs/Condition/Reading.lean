import SqlClauses.Proofs.Condition.Slots
import SqlClauses.Proofs.Statement.Values

set_option autoImplicit false

namespace SqlClauses.Syntax

@[simp] theorem slotValues_path (path : List (List Char)) : slotValues (pathTokens path) = [] := by
  induction path with
  | nil => rfl
  | cons part path ih => cases path <;> simp_all [pathTokens, slotValues]

@[simp] theorem Filling.fill_path (f : Filling) (n : Nat) (path : List (List Char)) :
    f.fill n (pathTokens path) = pathTokens path := by
  induction path with
  | nil => rfl
  | cons part path ih => cases path <;> simp_all [pathTokens, Filling.fill]

theorem unmarked_path (path : List (List Char)) : ∀ t ∈ pathTokens path, t.isMark = false := by
  induction path with
  | nil => simp [pathTokens]
  | cons part path ih => cases path <;> simp_all [pathTokens, Token.isMark]

@[simp] theorem slotValues_listSlots (values : List Value) : slotValues (listSlots values) = values := by
  induction values with
  | nil => rfl
  | cons v values ih => cases values <;> simp_all [listSlots, slotValues]

theorem unmarked_listSlots (values : List Value) : ∀ t ∈ listSlots values, t.isMark = false := by
  induction values with
  | nil => simp [listSlots]
  | cons v values ih => cases values <;> simp_all [listSlots, Token.isMark]

theorem lexes_operator (op : Comparison) : Lexes op.symbol.toList (operatorTokens op) := by
  have order {c : Char} {alone : Comparison} {withEqual : Comparison}
      (begun : Scan.start c = some (.order (some alone) withEqual)) :
      Lexes [c] [.operator alone] := by
    refine .of_scan (s := .order (some alone) withEqual) (fun rest => scan_started begun rest)
      rfl ?_
    intro rest boundary d first
    rcases boundary d first with rfl | rfl | rfl <;> rfl
  have ordered {c : Char} {alone : Option Comparison} {withEqual : Comparison}
      (begun : Scan.start c = some (.order alone withEqual)) :
      Lexes [c, '='] [.operator withEqual] := by
    refine .of_scan (s := .whole (.operator withEqual)) ?_ rfl fun _ _ _ _ => rfl
    intro rest
    rw [List.cons_append, scan_started begun]
    exact scan_extended ['='] rfl rest
  cases op with
  | eq => exact Lexes.symbol (c := '=') (t := .operator .eq) rfl .nil
  | ne => exact ordered (c := '!') rfl
  | lt => exact order (c := '<') rfl
  | le => exact ordered (c := '<') rfl
  | gt => exact order (c := '>') rfl
  | ge => exact ordered (c := '>') rfl
  | like => exact lexes_keyword "LIKE" .like (by simp [keywords])
  | notLike =>
    exact (lexes_keyword "NOT" .not (by simp [keywords])).space
      (lexes_keyword "LIKE" .like (by simp [keywords]))

namespace Reads

variable {config : Config} {quote : Char} {c : Column}
  (configured : config.quote = some quote) (known : quote = '"' ∨ quote = '`') (path : c.IsPath)

include configured known path

theorem compare (op : Comparison) (v : Value) :
    Reads [.text (c.text config ++ " " ++ op.symbol ++ " "), .value v]
      (pathTokens c.path ++ (operatorTokens op ++ [.value v])) where
  slots := by cases op <;> simp [operatorTokens, slotValues, Template.values]
  unmarked := by
    rw [List.forall_mem_append]
    exact ⟨unmarked_path _, by cases op <;> simp [operatorTokens, Token.isMark]⟩
  lexes f n := by
    have text := (lexes_column configured known path).space
      ((lexes_operator op).space (f.lexes n v))
    have filled : f.fill n (operatorTokens op ++ [.value v]) =
        operatorTokens op ++ f.tokens n v := by
      cases op <;> simp [operatorTokens, Filling.fill]
    simpa [Filling.write, filled] using text

theorem isNull (negated : Bool) :
    Reads [.text (c.text config ++ (if negated then " IS NOT NULL" else " IS NULL"))]
      (pathTokens c.path ++ .keyword .is :: (negation negated ++ [.keyword .null])) where
  slots := by cases negated <;> simp [negation, slotValues, Template.values]
  unmarked := by
    rw [List.forall_mem_append]
    exact ⟨unmarked_path _, by cases negated <;> simp [negation, Token.isMark]⟩
  lexes f n := by
    have column := lexes_column configured known path
    have null := lexes_keyword "NULL" .null (by simp [keywords])
    have is := lexes_keyword "IS" .is (by simp [keywords])
    have not := lexes_keyword "NOT" .not (by simp [keywords])
    cases negated with
    | false => simpa [Filling.write, Filling.fill, negation] using column.space (is.space null)
    | true =>
      simpa [Filling.write, Filling.fill, negation] using
        column.space (is.space (not.space null))

theorem between (negated : Bool) (low high : Value) :
    Reads [.text (c.text config ++ (if negated then " NOT BETWEEN " else " BETWEEN ")),
        .value low, .text " AND ", .value high]
      (pathTokens c.path ++ (negation negated ++ .keyword .between ::
        .value low :: .keyword .and :: [.value high])) where
  slots := by cases negated <;> simp [negation, slotValues, Template.values]
  unmarked := by
    rw [List.forall_mem_append]
    exact ⟨unmarked_path _, by cases negated <;> simp [negation, Token.isMark]⟩
  lexes f n := by
    have column := lexes_column configured known path
    have and := lexes_keyword "AND" .and (by simp [keywords])
    have between := lexes_keyword "BETWEEN" .between (by simp [keywords])
    have not := lexes_keyword "NOT" .not (by simp [keywords])
    have bounds := (f.lexes n low).space (and.space (f.lexes (n + 1) high))
    cases negated with
    | false =>
      simpa [Filling.write, Filling.fill, negation] using column.space (between.space bounds)
    | true =>
      simpa [Filling.write, Filling.fill, negation] using
        column.space (not.space (between.space bounds))

omit configured known path in
theorem lexes_listSlots (f : Filling) (v : Value) (values : List Value) (n : Nat) :
    Lexes (f.write n (Template.join ", " ((v :: values).map fun w => [Piece.value w])))
      (f.fill n (listSlots (v :: values))) := by
  induction values generalizing v n with
  | nil => simpa [Filling.write, Filling.fill, listSlots] using f.lexes n v
  | cons next values ih =>
    have blank := Lexes.nil.space (ih next (n + 1))
    simpa [Filling.write, Filling.fill, listSlots] using (f.lexes n v).comma blank

theorem among (negated : Bool) (v : Value) (values : List Value) :
    Reads (Expr.membership (c.text config) negated (v :: values))
      (pathTokens c.path ++ (negation negated ++ .keyword .among :: .opening ::
        (listSlots (v :: values) ++ [.closing]))) where
  slots := by cases negated <;> simp [negation, slotValues, Expr.values_membership]
  unmarked := by
    rw [List.forall_mem_append]
    refine ⟨unmarked_path _, ?_⟩
    have listed := unmarked_listSlots (v :: values)
    cases negated <;> simp_all [negation, Token.isMark, or_imp]
  lexes f n := by
    have column := lexes_column configured known path
    have among := lexes_keyword "IN" .among (by simp [keywords])
    have not := lexes_keyword "NOT" .not (by simp [keywords])
    have list := (lexes_listSlots f v values n).parens
    cases negated with
    | false =>
      simpa [Filling.write, Filling.fill, negation, Expr.membership] using
        column.space (among.space list)
    | true =>
      simpa [Filling.write, Filling.fill, negation, Expr.membership] using
        column.space (not.space (among.space list))

end Reads

def Connective.separator : Connective → String
  | .and => " AND "
  | .or => " OR "

theorem Reads.chain (c : Connective) {t u : Template} {ts us : List Token} (first : Reads t ts)
    (second : Reads u us) :
    Reads (t ++ .text c.separator :: u) (ts ++ .keyword c.keyword :: us) where
  slots := by simp [slotValues, Template.values, first.slots, second.slots]
  unmarked := by
    rw [List.forall_mem_append, List.forall_mem_cons]
    exact ⟨first.unmarked, rfl, second.unmarked⟩
  lexes f n := by
    have left := first.lexes f n
    have right := second.lexes f (n + t.values.length)
    have sameSlots := first.slots
    cases c with
    | and =>
      have word := lexes_keyword "AND" .and (by simp [keywords])
      simpa [Filling.write, Filling.fill, Connective.separator, Connective.keyword, sameSlots]
        using left.space (word.space right)
    | or =>
      have word := lexes_keyword "OR" .or (by simp [keywords])
      simpa [Filling.write, Filling.fill, Connective.separator, Connective.keyword, sameSlots]
        using left.space (word.space right)

theorem Reads.not {t : Template} {ts : List Token} (h : Reads t ts) :
    Reads (.text "NOT " :: t) (.keyword .not :: ts) where
  slots := h.slots
  unmarked := List.forall_mem_cons.mpr ⟨rfl, h.unmarked⟩
  lexes f n := by
    have word := lexes_keyword "NOT" .not (by simp [keywords])
    simpa [Filling.write, Filling.fill] using word.space (h.lexes f n)

theorem Reads.parens {t : Template} {ts : List Token} (h : Reads t ts) :
    Reads (.text "(" :: (t ++ [.text ")"])) (.opening :: (ts ++ [.closing])) where
  slots := by simp [slotValues, Template.values, h.slots]
  unmarked := by
    rw [List.forall_mem_cons, List.forall_mem_append]
    exact ⟨rfl, h.unmarked, by simp [Token.isMark]⟩
  lexes f n := by
    simpa [Filling.write, Filling.fill] using (h.lexes f n).parens

theorem Reads.constant (holds : Bool) :
    Reads (if holds then Expr.always else Expr.never) (constantTokens holds) where
  slots := by cases holds <;> rfl
  unmarked := by cases holds <;> simp [constantTokens, Token.isMark]
  lexes f n := by
    have digit (c : Char) (h : c.isDigit = true) : Lexes [c] [.number [c]] :=
      lexes_number ⟨c, [], rfl, h, by simp⟩
    have equal (c : Char) (h : c.isDigit = true) :=
      (digit '1' rfl).space ((lexes_operator .eq).space (digit c h))
    cases holds with
    | false => simpa [Filling.write, Filling.fill, Expr.never, constantTokens, Comparison.symbol,
        operatorTokens] using equal '0' rfl
    | true => simpa [Filling.write, Filling.fill, Expr.always, constantTokens, Comparison.symbol,
        operatorTokens] using equal '1' rfl

end SqlClauses.Syntax
