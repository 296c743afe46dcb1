import SqlClauses.Proofs.Condition.Reading
import SqlClauses.Proofs.Condition.Truth

set_option autoImplicit false

namespace SqlClauses

namespace Syntax

inductive Leaf where
  | test (t : Test)
  | constant (holds : Bool)

namespace Leaf

def truth (V : Test → Truth) : Leaf → Truth
  | .test t => V t
  | .constant holds => .ofBool holds

def atom (operand : Value → Operand) : Leaf → Atom
  | .test (.compare c op v) => .compare (.reference c.path) op (operand v)
  | .test (.isNull c negated) => .isNull (.reference c.path) negated
  | .test (.between c negated low high) =>
    .between (.reference c.path) negated (operand low) (operand high)
  | .test (.among c negated first rest) =>
    .among (.reference c.path) negated ((first :: rest).map operand)
  | .constant holds => constantAtom holds

end Leaf

def Connective.neutral : Connective → Bool
  | .and => true
  | .or => false

end Syntax

namespace Expr

open Syntax

mutual

def IsPlain : Expr → Prop
  | .compare column _ _ => column.IsPath
  | .isNull column _ => column.IsPath
  | .between column _ _ _ => column.IsPath
  | .inList column _ _ => column.IsPath
  | .all items => ArePlain items
  | .any items => ArePlain items
  | .not inner => IsPlain inner
  | .raw _ => False

def ArePlain : List Expr → Prop
  | [] => True
  | item :: rest => IsPlain item ∧ ArePlain rest

end

theorem ArePlain.append {items more : List Expr} (first : ArePlain items)
    (second : ArePlain more) : ArePlain (items ++ more) := by
  induction items with
  | nil => exact second
  | cons item items ih => exact ⟨first.1, ih first.2⟩

theorem IsPlain.and {a b : Expr} (first : a.IsPlain) (second : b.IsPlain) :
    (a.and b).IsPlain := by
  have added : ArePlain [b] := ⟨second, trivial⟩
  cases a with
  | all items => exact ArePlain.append first added
  | _ => exact ⟨first, added⟩

theorem IsPlain.or {a b : Expr} (first : a.IsPlain) (second : b.IsPlain) :
    (a.or b).IsPlain := by
  have added : ArePlain [b] := ⟨second, trivial⟩
  cases a with
  | any items => exact ArePlain.append first added
  | _ => exact ⟨first, added⟩

mutual

def reading : Expr → Condition Leaf
  | .compare column op value => .atom (.test (.compare column op value))
  | .isNull column negated => .atom (.test (.isNull column negated))
  | .between column negated low high => .atom (.test (.between column negated low high))
  | .inList _ negated [] => .atom (.constant negated)
  | .inList column negated (first :: rest) => .atom (.test (.among column negated first rest))
  | .all items => readings .and items
  | .any items => readings .or items
  | .not inner => .not (reading inner)
  -- Raw text could be read as anything; `IsPlain` excludes it.
  | .raw _ => .atom (.constant false)

def readings (c : Connective) : List Expr → Condition Leaf
  | [] => .atom (.constant c.neutral)
  | [item] => reading item
  | item :: next :: rest => .chain c (reading item) (readings c (next :: rest))

end

def level (e : Expr) : Level :=
  if e.isGroup then .chain .or else .negation

end Expr

namespace Syntax

def Means (level : Level) (t : Template) (c : Condition Leaf) : Prop :=
  ∃ ts, Reads t ts ∧ ∀ s : Spelling, Parses level (s.fill ts) (c.map (Leaf.atom s.operand))

namespace Means

theorem leaf {t : Template} {ts : List Token} {l : Leaf} (reads : Reads t ts)
    (parses : ∀ s : Spelling, Parses .negation (s.fill ts) (.atom (l.atom s.operand))) :
    Means .negation t (.atom l) :=
  ⟨ts, reads, parses⟩

theorem parens {t : Template} {c : Condition Leaf} (h : Means (.chain .or) t c) :
    Means .negation (.text "(" :: (t ++ [.text ")"])) c := by
  obtain ⟨ts, reads, parses⟩ := h
  refine ⟨_, reads.parens, fun s => ?_⟩
  simpa using (parses s).parens

theorem not {t : Template} {c : Condition Leaf} (h : Means .negation t c) :
    Means .negation (.text "NOT " :: t) (.not c) := by
  obtain ⟨ts, reads, parses⟩ := h
  exact ⟨_, reads.not, fun s => (parses s).not⟩

theorem single {k : Connective} {t : Template} {c : Condition Leaf} (h : Means k.link t c) :
    Means (.chain k) t c := by
  obtain ⟨ts, reads, parses⟩ := h
  exact ⟨ts, reads, fun s => (parses s).single⟩

theorem chain {k : Connective} {t u : Template} {c d : Condition Leaf} (first : Means k.link t c)
    (second : Means (.chain k) u d) :
    Means (.chain k) (t ++ .text k.separator :: u) (.chain k c d) := by
  obtain ⟨ts, readsFirst, parsesFirst⟩ := first
  obtain ⟨us, readsSecond, parsesSecond⟩ := second
  refine ⟨_, readsFirst.chain k readsSecond, fun s => ?_⟩
  simpa [Condition.map] using (parsesFirst s).chain (parsesSecond s)

theorem link {t : Template} {c : Condition Leaf} (h : Means .negation t c) (k : Connective) :
    Means k.link t c := by
  cases k with
  | and => exact h
  | or => exact single (k := .and) h

theorem whole {e : Expr} {t : Template} {c : Condition Leaf} (h : Means e.level t c) :
    Means (.chain .or) t c := by
  cases group : e.isGroup with
  | true => simpa [Expr.level, group] using h
  | false =>
    rw [Expr.level, group, if_neg Bool.false_ne_true] at h
    exact (h.link .or).single

theorem inside {e : Expr} {t : Template} {c : Condition Leaf} (h : Means e.level t c) :
    Means .negation (Expr.parenthesize e.isGroup t) c := by
  -- Parentheses are around exactly the texts that are no single link.
  cases group : e.isGroup with
  | true => exact h.whole.parens
  | false => simpa [Expr.level, Expr.parenthesize, group] using h

end Means

theorem means_items (config : Config) (k : Connective) (item : Expr) (rest : List Expr)
    (each : ∀ x ∈ item :: rest,
      Means .negation (Expr.parenthesize x.isGroup (x.template config)) x.reading) :
    Means (.chain k) (Template.join k.separator (Expr.templates config (item :: rest)))
      (Expr.readings k (item :: rest)) := by
  induction rest generalizing item with
  | nil =>
    have only := (each item (by simp)).link k
    simpa [Expr.templates, Expr.readings] using only.single
  | cons next rest ih =>
    have first := (each item (by simp)).link k
    have later := ih next fun x member => each x (by simp [member])
    simpa [Expr.templates, Expr.readings] using first.chain later

theorem means_constant (holds : Bool) :
    Means .negation (if holds then Expr.always else Expr.never) (.atom (.constant holds)) := by
  refine .leaf (.constant holds) fun s => ?_
  simpa [constantTokens, Leaf.atom] using parses_constant holds

mutual

theorem means_template {config : Config} {quote : Char} (configured : config.quote = some quote)
    (known : quote = '"' ∨ quote = '`') :
    (e : Expr) → e.IsPlain → Means e.level (e.template config) e.reading
  | .compare c op v, path => by
    refine Means.leaf (l := .test (.compare c op v)) (.compare configured known path op v)
      fun s => ?_
    simpa [Leaf.atom] using parses_compare s c.path_ne_nil op v
  | .isNull c negated, path => by
    refine Means.leaf (l := .test (.isNull c negated)) (.isNull configured known path negated)
      fun s => ?_
    simpa [Leaf.atom] using parses_isNull c.path_ne_nil negated
  | .between c negated low high, path => by
    refine Means.leaf (l := .test (.between c negated low high))
      (.between configured known path negated low high) fun s => ?_
    simpa [Leaf.atom] using parses_between s c.path_ne_nil negated low high
  | .inList c negated [], _ => means_constant negated
  | .inList c negated (v :: values), path => by
    refine Means.leaf (l := .test (.among c negated v values))
      (.among configured known path negated v values) fun s => ?_
    simpa [Leaf.atom] using parses_among s c.path_ne_nil negated v values
  | .all [], _ => means_constant true
  | .all [item], plain => by
    have only := (means_template configured known item plain.1).inside
    simpa [Expr.template, Expr.templates, Expr.group, Expr.reading, Expr.readings, Expr.level,
      Expr.isGroup] using only
  | .all (item :: next :: rest), plain =>
    (means_items config .and item (next :: rest) (means_each configured known _ plain)).single
      (k := .or)
  | .any [], _ => means_constant false
  | .any [item], plain => by
    have only := (means_template configured known item plain.1).inside
    simpa [Expr.template, Expr.templates, Expr.group, Expr.reading, Expr.readings, Expr.level,
      Expr.isGroup] using only
  | .any (item :: next :: rest), plain =>
    means_items config .or item (next :: rest) (means_each configured known _ plain)
  | .not inner, plain => (means_template configured known inner plain).inside.not
  | .raw _, plain => plain.elim

theorem means_each {config : Config} {quote : Char} (configured : config.quote = some quote)
    (known : quote = '"' ∨ quote = '`') :
    (items : List Expr) → Expr.ArePlain items → ∀ x ∈ items,
      Means .negation (Expr.parenthesize x.isGroup (x.template config)) x.reading
  | [], _ => by simp
  | item :: rest, plain => by
    have first := (means_template configured known item plain.1).inside
    have later := means_each configured known rest plain.2
    simp only [List.forall_mem_cons]
    exact ⟨first, later⟩

end

mutual

theorem truth_reading (V : Test → Truth) :
    (e : Expr) → e.IsPlain → e.reading.truth (Leaf.truth V) = e.truth V
  | .compare _ _ _, _ => rfl
  | .isNull _ _, _ => rfl
  | .between _ _ _ _, _ => rfl
  | .inList _ _ [], _ => rfl
  | .inList _ _ (_ :: _), _ => rfl
  | .all items, plain =>
    (truth_readings V .and items plain).trans (Expr.allTruth_eq_foldr V items).symm
  | .any items, plain =>
    (truth_readings V .or items plain).trans (Expr.anyTruth_eq_foldr V items).symm
  | .not inner, plain => congrArg Truth.not (truth_reading V inner plain)
  | .raw _, plain => plain.elim

theorem truth_readings (V : Test → Truth) (k : Connective) :
    (items : List Expr) → Expr.ArePlain items →
      (Expr.readings k items).truth (Leaf.truth V) =
        items.foldr (fun item later => k.truth (item.truth V) later) (.ofBool k.neutral)
  | [], _ => rfl
  | [item], plain => by
    have only := truth_reading V item plain.1
    cases k <;> simp [Expr.readings, only, Connective.truth, Connective.neutral, Truth.ofBool]
  | item :: next :: rest, plain => by
    have first := truth_reading V item plain.1
    have later := truth_readings V k (next :: rest) plain.2
    rw [Expr.readings, Condition.truth, first, later]
    rfl

end

def parseText (text : String) : Option (Condition Atom) :=
  (tokens text).bind condition

def parseBound (params : List Value) (earlier : Nat) (text : String) :
    Option (Condition Atom) :=
  ((tokens text).bind (bind params earlier)).bind condition

theorem Reads.parseText {t : Template} {ts : List Token} {c : Condition Atom} (reads : Reads t ts)
    (parses : Parses (.chain .or) (Spelling.literal.fill ts) c) :
    Syntax.parseText t.inline = some c := by
  have lexed := reads.lexes .literal 0
  rw [write_literal, fill_literal] at lexed
  rw [Syntax.parseText, tokens_of_lexes lexed]
  exact condition_of_parses parses

theorem Reads.parseBound {t : Template} {ts : List Token} {c : Condition Atom} (reads : Reads t ts)
    (parses : Parses (.chain .or) ts c) (style : Placeholder) (earlier later : List Value) :
    Syntax.parseBound (earlier ++ t.values ++ later) earlier.length
      (t.marked style earlier.length) = some c := by
  have lexed := reads.lexes (.marks style) earlier.length
  rw [write_marks] at lexed
  have present : (earlier ++ t.values).drop earlier.length = slotValues ts := by
    rw [List.drop_left, reads.slots]
  have bound := bind_marks style reads.unmarked earlier.length earlier.length present fun _ => rfl
  rw [Syntax.parseBound, tokens_of_lexes lexed, Option.bind_some, bind_append bound]
  exact condition_of_parses parses

theorem Means.inline {t : Template} {c : Condition Leaf} (h : Means (.chain .or) t c) :
    parseText t.inline = some (c.map (Leaf.atom Spelling.literalOperand)) := by
  obtain ⟨ts, reads, parses⟩ := h
  exact reads.parseText (parses .literal)

theorem Means.marked {t : Template} {c : Condition Leaf} (h : Means (.chain .or) t c)
    (style : Placeholder) (earlier : List Value) :
    parseBound (earlier ++ t.values) earlier.length (t.marked style earlier.length) =
      some (c.map (Leaf.atom .value)) := by
  obtain ⟨ts, reads, parses⟩ := h
  have parsed := parses .bound
  rw [fill_bound] at parsed
  have bound := reads.parseBound parsed style earlier []
  rwa [List.append_nil] at bound

end Syntax

namespace Expr

open Syntax

theorem text_keeps_meaning (config : Config) (e : Expr)
    (quoted : config.quote = some '"' ∨ config.quote = some '`') (plain : e.IsPlain) :
    ∃ c : Condition Leaf,
      (∀ V : Test → Truth, c.truth (Leaf.truth V) = e.truth V) ∧
      parseText ((Render.expr e).runFrom (.inline config)).1 =
        some (c.map (Leaf.atom Spelling.literalOperand)) ∧
      (∀ earlier : Array Value,
        let written := (Render.expr e).runFrom ⟨config, some earlier⟩
        parseBound written.2.params earlier.size written.1 = some (c.map (Leaf.atom .value))) ∧
      (∀ (V : Test → Truth) (other : Expr),
        (e.and other).truth V = (e.truth V).and (other.truth V) ∧
        (e.or other).truth V = (e.truth V).or (other.truth V) ∧
        (Expr.not e).truth V = (e.truth V).not) ∧
      ∀ other : Expr, other.IsPlain →
        (e.and other).IsPlain ∧ (e.or other).IsPlain ∧ (Expr.not e).IsPlain := by
  obtain ⟨quote, configured, known⟩ :
      ∃ quote, config.quote = some quote ∧ (quote = '"' ∨ quote = '`') := by
    rcases quoted with configured | configured
    · exact ⟨_, configured, .inl rfl⟩
    · exact ⟨_, configured, .inr rfl⟩
  -- Both readings fill the slots of the same tokens, so one induction over `e` serves both.
  have means := (means_template configured known e plain).whole
  refine ⟨e.reading, fun V => truth_reading V e plain, ?_, ?_, ?_, ?_⟩
  · have written : (Render.expr e).runFrom (.inline config) =
        ((e.template config).inline, .inline config) := by simp [Render.runFrom, Render.run_expr]
    rw [written]
    exact means.inline
  · intro earlier
    have written : (Render.expr e).runFrom ⟨config, some earlier⟩ =
        ((e.template config).marked config.placeholder earlier.size,
          ⟨config, some (earlier ++ (e.template config).values.toArray)⟩) := by
      simp [Render.runFrom, Render.run_expr]
    rw [written]
    simpa [Context.params] using means.marked config.placeholder earlier.toList
  · exact fun V other => ⟨truth_and V e other, truth_or V e other, rfl⟩
  · exact fun other added => ⟨plain.and added, plain.or added, plain⟩

theorem between_text_keeps_meaning :
    let e : Expr := .all [.between { name := "like" } false (.text "' AND (") (.int 2),
      .any [.isNull { table := some "t", name := "a" } false, .inList { name := "b" } true []]]
    e.IsPlain ∧ ∃ c : Condition Leaf,
      (∀ V : Test → Truth, c.truth (Leaf.truth V) = e.truth V) ∧
      parseText "\"like\" BETWEEN ''' AND (' AND 2 AND (t.a IS NULL OR 1 = 1)" =
        some (c.map (Leaf.atom Spelling.literalOperand)) := by
  intro e
  have named (name : String)
      (all : (Reference.parts name.toList).all Reference.isIdentifier = true) :
      Reference.IsPath name := by
    simpa [Reference.IsPath] using all
  have plain : e.IsPlain :=
    ⟨⟨named "like" (by decide), by simp⟩,
      ⟨⟨⟨named "a" (by decide), by simpa using named "t" (by decide)⟩,
        ⟨⟨named "b" (by decide), by simp⟩, trivial⟩⟩, trivial⟩⟩
  have text : ((Render.expr e).runFrom (.inline {})).1 =
      "\"like\" BETWEEN ''' AND (' AND 2 AND (t.a IS NULL OR 1 = 1)" := rfl
  obtain ⟨c, truth, parsed, -⟩ := text_keeps_meaning {} e (.inl rfl) plain
  rw [text] at parsed
  exact ⟨plain, c, truth, parsed⟩

end Expr

end SqlClauses
