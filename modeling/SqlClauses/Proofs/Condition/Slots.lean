import SqlClauses.Proofs.Condition.Predicate
import SqlClauses.Proofs.Template.Join

set_option autoImplicit false

namespace SqlClauses.Syntax

def slotValues : List Token → List Value
  | [] => []
  | .value v :: ts => v :: slotValues ts
  | _ :: ts => slotValues ts

@[simp] theorem slotValues_append (ts us : List Token) :
    slotValues (ts ++ us) = slotValues ts ++ slotValues us := by
  induction ts with
  | nil => rfl
  | cons t ts ih => cases t <;> simp [slotValues, ih]

structure Filling where
  text : Nat → Value → String
  tokens : Nat → Value → List Token
  lexes : ∀ n v, Lexes (text n v).toList (tokens n v)

namespace Filling

def literal : Filling where
  text _ v := v.literal
  tokens _ v := literalTokens v
  lexes _ v := lexes_literal v

def marks (style : Placeholder) : Filling where
  text n _ := style.mark (n + 1)
  tokens n _ := [markToken style (n + 1)]
  lexes n _ := lexes_mark style (n + 1)

@[simp] theorem text_literal (n : Nat) (v : Value) : literal.text n v = v.literal := rfl

@[simp] theorem tokens_literal (n : Nat) (v : Value) : literal.tokens n v = literalTokens v := rfl

@[simp] theorem text_marks (style : Placeholder) (n : Nat) (v : Value) :
    (marks style).text n v = style.mark (n + 1) := rfl

@[simp] theorem tokens_marks (style : Placeholder) (n : Nat) (v : Value) :
    (marks style).tokens n v = [markToken style (n + 1)] := rfl

variable (f : Filling)

def write : Nat → Template → List Char
  | _, [] => []
  | n, .text s :: rest => s.toList ++ write n rest
  | n, .value v :: rest => (f.text n v).toList ++ write (n + 1) rest

def fill : Nat → List Token → List Token
  | _, [] => []
  | n, .value v :: rest => f.tokens n v ++ fill (n + 1) rest
  | n, t :: rest => t :: fill n rest

@[simp] theorem write_append (n : Nat) (t u : Template) :
    f.write n (t ++ u) = f.write n t ++ f.write (n + t.values.length) u := by
  induction t generalizing n with
  | nil => rfl
  | cons p t ih =>
    cases p <;> simp [write, Template.values, ih, Nat.add_assoc, Nat.add_comm 1]

@[simp] theorem fill_append (n : Nat) (ts us : List Token) :
    f.fill n (ts ++ us) = f.fill n ts ++ f.fill (n + (slotValues ts).length) us := by
  induction ts generalizing n with
  | nil => rfl
  | cons t ts ih =>
    cases t <;> simp [fill, slotValues, ih, Nat.add_assoc, Nat.add_comm 1]

end Filling

theorem write_literal (n : Nat) (t : Template) :
    Filling.literal.write n t = t.inline.toList := by
  induction t generalizing n with
  | nil => simp [Filling.write]
  | cons p t ih => cases p <;> simp [Filling.write, ih]

theorem write_marks (style : Placeholder) (n : Nat) (t : Template) :
    (Filling.marks style).write n t = (t.marked style n).toList := by
  induction t generalizing n with
  | nil => simp [Filling.write]
  | cons p t ih => cases p <;> simp [Filling.write, ih]

theorem fill_literal (n : Nat) (ts : List Token) :
    Filling.literal.fill n ts = Spelling.literal.fill ts := by
  induction ts generalizing n with
  | nil => rfl
  | cons t ts ih => cases t <;> simp [Filling.fill, ih]

def bind (params : List Value) : Nat → List Token → Option (List Token)
  | _, [] => some []
  | earlier, .question :: rest => do
    let v ← params[earlier]?
    (.value v :: ·) <$> bind params (earlier + 1) rest
  | _, .position 0 :: _ => none
  | earlier, .position (n + 1) :: rest => do
    let v ← params[n]?
    (.value v :: ·) <$> bind params earlier rest
  | earlier, t :: rest => (t :: ·) <$> bind params earlier rest

def Token.isMark : Token → Bool
  | .question => true
  | .position _ => true
  | _ => false

theorem bind_marks (style : Placeholder) {params : List Value} {ts : List Token}
    (unmarked : ∀ t ∈ ts, t.isMark = false) (n earlier : Nat)
    (present : params.drop n = slotValues ts) (counted : style = .question → earlier = n) :
    bind params earlier ((Filling.marks style).fill n ts) = some ts := by
  induction ts generalizing n earlier with
  | nil => rfl
  | cons t ts ih =>
    have plain : ∀ u ∈ ts, u.isMark = false := fun u member => unmarked u (by simp [member])
    cases t with
    | value v =>
      have here : params[n]? = some v := by
        rw [← List.head?_drop, present, slotValues, List.head?_cons]
      have later : params.drop (n + 1) = slotValues ts := by
        rw [← List.drop_drop, present, slotValues, List.drop_one, List.tail_cons]
      -- Question marks are counted from the left, numbered ones say their position.
      cases style with
      | question =>
        rw [counted rfl]
        have more := ih plain (n + 1) (n + 1) later fun _ => rfl
        simp [Filling.fill, markToken, bind, here, more]
      | numbered =>
        have more := ih plain (n + 1) earlier later (by simp)
        simp [Filling.fill, markToken, bind, here, more]
    | question => simpa [Token.isMark] using unmarked .question (by simp)
    | position k => simpa [Token.isMark] using unmarked (.position k) (by simp)
    | _ => simp [Filling.fill, bind, ih plain n earlier present counted]

-- Parameters of what stands behind the text bind no mark of it.
theorem bind_append {params : List Value} {earlier : Nat} {ts bound : List Token}
    (h : bind params earlier ts = some bound) (more : List Value) :
    bind (params ++ more) earlier ts = some bound := by
  have present {n : Nat} {v : Value} (h : params[n]? = some v) : (params ++ more)[n]? = some v := by
    obtain ⟨inside, -⟩ := List.getElem?_eq_some_iff.mp h
    rw [List.getElem?_append_left inside, h]
  induction ts generalizing earlier bound with
  | nil => exact h
  | cons t ts ih =>
    cases t with
    | question =>
      obtain ⟨v, here, h⟩ := Option.bind_eq_some_iff.mp h
      obtain ⟨rest, later, rfl⟩ := Option.map_eq_some_iff.mp h
      simp [bind, present here, ih later]
    | position k =>
      cases k with
      | zero => cases h
      | succ n =>
        obtain ⟨v, here, h⟩ := Option.bind_eq_some_iff.mp h
        obtain ⟨rest, later, rfl⟩ := Option.map_eq_some_iff.mp h
        simp [bind, present here, ih later]
    | _ =>
      obtain ⟨rest, later, rfl⟩ := Option.map_eq_some_iff.mp h
      simp [bind, ih later]

structure Reads (t : Template) (ts : List Token) : Prop where
  slots : slotValues ts = t.values
  unmarked : ∀ token ∈ ts, token.isMark = false
  lexes : ∀ (f : Filling) n, Lexes (f.write n t) (f.fill n ts)

end SqlClauses.Syntax
