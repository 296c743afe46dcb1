import SqlClauses.Expr.Basic
import SqlClauses.Proofs.Condition.Grammar

set_option autoImplicit false

namespace SqlClauses

inductive Truth where
  | false
  | unknown
  | true
deriving DecidableEq

namespace Truth

def ofBool : Bool → Truth
  | .true => .true
  | .false => .false

def not : Truth → Truth
  | .false => .true
  | .unknown => .unknown
  | .true => .false

def and : Truth → Truth → Truth
  | .false, _ => .false
  | .true, q => q
  | .unknown, .false => .false
  | .unknown, _ => .unknown

def or : Truth → Truth → Truth
  | .true, _ => .true
  | .false, q => q
  | .unknown, .true => .true
  | .unknown, _ => .unknown

@[simp] theorem true_and (q : Truth) : Truth.true.and q = q := rfl

@[simp] theorem and_true (p : Truth) : p.and .true = p := by cases p <;> rfl

theorem and_assoc (p q r : Truth) : (p.and q).and r = p.and (q.and r) := by
  cases p <;> cases q <;> cases r <;> rfl

@[simp] theorem false_or (q : Truth) : Truth.false.or q = q := rfl

@[simp] theorem or_false (p : Truth) : p.or .false = p := by cases p <;> rfl

theorem or_assoc (p q r : Truth) : (p.or q).or r = p.or (q.or r) := by
  cases p <;> cases q <;> cases r <;> rfl

end Truth

namespace Syntax

def Connective.truth : Connective → Truth → Truth → Truth
  | .and => Truth.and
  | .or => Truth.or

def Condition.truth {α : Type} (V : α → Truth) : Condition α → Truth
  | .atom a => V a
  | .chain c left right => c.truth (left.truth V) (right.truth V)
  | .not inner => (inner.truth V).not

end Syntax

inductive Test where
  | compare (column : Column) (op : Comparison) (value : Value)
  | isNull (column : Column) (negated : Bool)
  | between (column : Column) (negated : Bool) (low high : Value)
  | among (column : Column) (negated : Bool) (first : Value) (rest : List Value)

namespace Expr

mutual

def truth (V : Test → Truth) : Expr → Truth
  | .compare column op value => V (.compare column op value)
  | .isNull column negated => V (.isNull column negated)
  | .between column negated low high => V (.between column negated low high)
  | .inList _ negated [] => .ofBool negated
  | .inList column negated (first :: rest) => V (.among column negated first rest)
  | .all items => allTruth V items
  | .any items => anyTruth V items
  | .not inner => (truth V inner).not
  -- Nothing is known about raw text.
  | .raw _ => .unknown

def allTruth (V : Test → Truth) : List Expr → Truth
  | [] => .true
  | item :: rest => (truth V item).and (allTruth V rest)

def anyTruth (V : Test → Truth) : List Expr → Truth
  | [] => .false
  | item :: rest => (truth V item).or (anyTruth V rest)

end

variable (V : Test → Truth)

theorem allTruth_eq_foldr (items : List Expr) :
    allTruth V items = items.foldr (fun item later => (item.truth V).and later) .true := by
  induction items with
  | nil => rfl
  | cons item items ih => rw [allTruth, ih, List.foldr_cons]

theorem anyTruth_eq_foldr (items : List Expr) :
    anyTruth V items = items.foldr (fun item later => (item.truth V).or later) .false := by
  induction items with
  | nil => rfl
  | cons item items ih => rw [anyTruth, ih, List.foldr_cons]

theorem allTruth_append (items more : List Expr) :
    allTruth V (items ++ more) = (allTruth V items).and (allTruth V more) := by
  induction items with
  | nil => simp [allTruth]
  | cons item items ih => rw [List.cons_append, allTruth, ih, allTruth, Truth.and_assoc]

theorem anyTruth_append (items more : List Expr) :
    anyTruth V (items ++ more) = (anyTruth V items).or (anyTruth V more) := by
  induction items with
  | nil => simp [anyTruth]
  | cons item items ih => rw [List.cons_append, anyTruth, ih, anyTruth, Truth.or_assoc]

theorem truth_and (a b : Expr) : (a.and b).truth V = (a.truth V).and (b.truth V) := by
  cases a with
  | all items => simp [Expr.and, truth, allTruth_append, allTruth]
  | _ => simp [Expr.and, truth, allTruth]

theorem truth_or (a b : Expr) : (a.or b).truth V = (a.truth V).or (b.truth V) := by
  cases a with
  | any items => simp [Expr.or, truth, anyTruth_append, anyTruth]
  | _ => simp [Expr.or, truth, anyTruth]

end Expr

end SqlClauses
