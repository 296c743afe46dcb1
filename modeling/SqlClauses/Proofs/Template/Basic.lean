import SqlClauses.Context

set_option autoImplicit false

-- A template is the text of a statement with its values left open. With each value as a literal it
-- has one reading, with each value as a placeholder the other.

namespace SqlClauses

inductive Piece where
  | text (s : String)
  | value (v : Value)

def Piece.literal : Piece → String
  | .text s => s
  | .value v => v.literal

abbrev Template := List Piece

namespace Template

def values : Template → List Value
  | [] => []
  | .text _ :: rest => values rest
  | .value v :: rest => v :: values rest

@[simp] theorem values_append (s t : Template) : values (s ++ t) = values s ++ values t := by
  induction s with
  | nil => rfl
  | cons p rest ih => cases p <;> simp [values, ih]

def inline (t : Template) : String :=
  String.join (t.map Piece.literal)

def marks (style : Placeholder) : Nat → Template → List String
  | _, [] => []
  | earlier, .text s :: rest => s :: marks style earlier rest
  | earlier, .value _ :: rest => style.mark (earlier + 1) :: marks style (earlier + 1) rest

@[simp] theorem marks_append (style : Placeholder) (earlier : Nat) (s t : Template) :
    marks style earlier (s ++ t) =
      marks style earlier s ++ marks style (earlier + (values s).length) t := by
  induction s generalizing earlier with
  | nil => rfl
  | cons p rest ih =>
    cases p <;> simp [marks, values, ih, Nat.add_assoc, Nat.add_comm 1]

def marked (style : Placeholder) (earlier : Nat) (t : Template) : String :=
  String.join (t.marks style earlier)

def join (separator : String) (items : List Template) : Template :=
  [Piece.text separator].intercalate items

@[simp] theorem join_nil (separator : String) : join separator [] = [] := rfl

@[simp] theorem join_singleton (separator : String) (t : Template) : join separator [t] = t := by
  simp [join, List.intercalate]

@[simp] theorem join_cons_cons (separator : String) (t u : Template) (rest : List Template) :
    join separator (t :: u :: rest) = t ++ .text separator :: join separator (u :: rest) := by
  simp [join, List.intercalate]

end Template

namespace Render

def piece : Piece → Render String
  | .text s => pure s
  | .value v => value v

def write (t : Template) : Render String := String.join <$> t.mapM piece

@[simp] theorem write_nil : write [] = pure "" := by
  simp [write]

@[simp] theorem write_text_cons (s : String) (t : Template) :
    write (.text s :: t) = (fun text => s ++ text) <$> write t := by
  simp [write, piece, List.mapM_cons]

@[simp] theorem write_value_cons (v : Value) (t : Template) :
    write (.value v :: t) = do return (← value v) ++ (← write t) := by
  simp [write, piece, List.mapM_cons]

@[simp] theorem write_append (t u : Template) :
    write (t ++ u) = do return (← write t) ++ (← write u) := by
  simp [write]

theorem write_join (separator : String) (items : List Template) :
    write (Template.join separator items) = separator.intercalate <$> items.mapM write := by
  induction items with
  | nil => rfl
  | cons t rest ih =>
    cases rest with
    | nil => simp
    | cons u rest =>
      rw [Template.join_cons_cons, write_append, write_text_cons, ih]
      simp [List.mapM_cons, String.append_assoc]

theorem write_texts (separator : String) (texts : List String) :
    write (Template.join separator (texts.map fun text => [Piece.text text])) =
      pure (separator.intercalate texts) := by
  induction texts with
  | nil => rfl
  | cons text rest ih =>
    cases rest with
    | nil => simp
    | cons next rest =>
      rw [List.map_cons] at ih
      simp [ih, String.append_assoc]

theorem run_pieces_inline (settings : Config) (t : Template) :
    (t.mapM piece).run (Context.inline settings) =
      pure (t.map Piece.literal, Context.inline settings) := by
  induction t with
  | nil => rfl
  | cons p rest ih =>
    rw [List.mapM_cons]
    cases p <;> simp [piece, Piece.literal, ih]

theorem run_pieces_collecting (settings : Config) (values : Array Value) (t : Template) :
    (t.mapM piece).run ⟨settings, some values⟩ =
      pure (t.marks settings.placeholder values.size,
        ⟨settings, some (values ++ t.values.toArray)⟩) := by
  induction t generalizing values with
  | nil => simp [Template.marks, Template.values]
  | cons p rest ih =>
    rw [List.mapM_cons]
    cases p <;> simp [piece, Template.marks, Template.values, ih]

@[simp] theorem run_write_inline (settings : Config) (t : Template) :
    (write t).run (Context.inline settings) = pure (t.inline, Context.inline settings) := by
  simp [write, run_pieces_inline, Template.inline]

@[simp] theorem run_write_collecting (settings : Config) (values : Array Value) (t : Template) :
    (write t).run ⟨settings, some values⟩ =
      pure (t.marked settings.placeholder values.size,
        ⟨settings, some (values ++ t.values.toArray)⟩) := by
  simp [write, run_pieces_collecting, Template.marked]

-- Writing a template leaves the settings alone, so what is written next may read them again.
@[simp] theorem config_write (t : Template) (cx : Context) :
    ((write t).run cx).2.config = cx.config := by
  rcases cx with ⟨config, none | values⟩
  · exact congrArg (·.2.config) (run_write_inline config t)
  · exact congrArg (·.2.config) (run_write_collecting config values t)

theorem run_write_bind {β : Type} (t : Template) (cx : Context) {f g : String × Context → Id β}
    (same : ∀ p, p.2.config = cx.config → f p = g p) :
    ((write t).run cx >>= f) = ((write t).run cx >>= g) :=
  same _ (config_write t cx)

theorem run_mapM_of_run {α : Type} {r : α → Render String} {t : Config → α → Template}
    (each : ∀ a cx, (r a).run cx = (write (t cx.config a)).run cx) (as : List α) (cx : Context) :
    (as.mapM r).run cx = ((as.map (t cx.config)).mapM write).run cx := by
  induction as generalizing cx with
  | nil => rfl
  | cons a rest ih =>
    simp only [List.mapM_cons, List.map_cons, StateT.run_bind, each a cx, ih]
    exact run_write_bind _ _ fun p kept => by rw [kept]

end Render

end SqlClauses
