import SqlClauses.Proofs.Condition.Following
import SqlClauses.Proofs.Condition.Meaning

set_option autoImplicit false

namespace SqlClauses

namespace Syntax

theorem Connective.truth_assoc (k : Connective) (p q r : Truth) :
    k.truth (k.truth p q) r = k.truth p (k.truth q r) := by
  cases k with
  | and => exact Truth.and_assoc p q r
  | or => exact Truth.or_assoc p q r

@[simp] theorem Condition.truth_map {α β : Type} (f : α → β) (V : β → Truth) (c : Condition α) :
    (c.map f).truth V = c.truth fun a => V (f a) := by
  induction c with
  | atom a => rfl
  | chain k left right first second => simp [Condition.map, Condition.truth, first, second]
  | not inner ih => simp [Condition.map, Condition.truth, ih]

theorem parse_continue {k : Connective} {us : List Token} {d : Condition Atom}
    (second : Parses (.chain k) us d) {fuel : Nat} {ts : List Token} {c : Condition Atom}
    (first : parse fuel (.chain k) ts = some (c, [])) :
    ∃ e, (∀ W, e.truth W = k.truth (c.truth W) (d.truth W)) ∧
      ∀ enough rest, fuel + (3 * us.length + (Level.chain k).height) ≤ enough →
        (Level.chain k).Stops rest →
        parse enough (.chain k) (ts ++ .keyword k.keyword :: (us ++ rest)) = some (e, rest) := by
  induction fuel generalizing ts c with
  | zero => cases first
  | succ fuel ih =>
    obtain ⟨left, next, link, more⟩ := parse_chain_iff.mp first
    have follow := (parse_follow link).2
    obtain ⟨more, right, rfl, inner, rfl⟩ | ⟨rfl, rfl, -⟩ := more
    · obtain ⟨e, truth, read⟩ := ih inner
      refine ⟨.chain k left e, fun W => ?_, fun enough rest bound stops => ?_⟩
      · simp [Condition.truth, truth, Connective.truth_assoc]
      · cases enough with
        | zero => omega
        | succ enough =>
          have stopped := (Level.stops_connective k (us ++ rest)).negation
          have front := parse_mono (by omega : fuel ≤ enough) (follow _ stopped (by simp))
          exact parse_chain_iff.mpr ⟨left, _, front,
            .inl ⟨_, e, rfl, read enough rest (by omega) stops, rfl⟩⟩
    · refine ⟨.chain k c d, fun W => rfl, fun enough rest bound stops => ?_⟩
      cases enough with
      | zero => omega
      | succ enough =>
        have stopped := Level.stops_connective k (us ++ rest)
        have front := parse_mono (by omega : fuel ≤ enough)
          (follow _ stopped.negation fun _ => stopped)
        exact parse_chain_iff.mpr ⟨c, _, front,
          .inl ⟨_, d, rfl, second enough rest (by omega) stops, rfl⟩⟩

-- The condition is not the chain of the two conditions, since chains are read to the right, but it
-- is as true as that.
theorem Parses.continue {k : Connective} {ts us : List Token} {c d : Condition Atom}
    (first : whole (.chain k) ts = some c) (second : Parses (.chain k) us d) :
    ∃ e, Parses (.chain k) (ts ++ .keyword k.keyword :: us) e ∧
      ∀ W, e.truth W = k.truth (c.truth W) (d.truth W) := by
  obtain ⟨e, truth, read⟩ := parse_continue second (parse_of_whole first)
  have height : (Level.chain k).height ≤ 2 := by cases k <;> simp [Level.height]
  refine ⟨e, fun fuel rest enough stops => ?_, truth⟩
  simp only [List.length_append, List.length_cons] at enough
  rw [List.append_assoc, List.cons_append]
  exact read fuel rest (by omega) stops

def RespectsConstants (W : Atom → Truth) : Prop :=
  ∀ holds, W (constantAtom holds) = .ofBool holds

abbrev Reading := (Value → Operand) → (Atom → Truth) → Truth

-- The tokens say `m`, alone and in front of more links of a chain of AND.
structure Conjoins (ts : List Token) (m : (Atom → Truth) → Truth) : Prop where
  alone : ∃ c, Parses (.chain .and) ts c ∧ ∀ W, RespectsConstants W → c.truth W = m W
  before : ∀ {us d}, Parses (.chain .and) us d →
    ∃ c, Parses (.chain .and) (ts ++ .keyword .and :: us) c ∧
      ∀ W, RespectsConstants W → c.truth W = (m W).and (d.truth W)

def Contributes (t : Template) (m : Reading) : Prop :=
  ∃ ts, Reads t ts ∧ ∀ s : Spelling, Conjoins (s.fill ts) (m s.operand)

def Expresses (t : Template) (m : Reading) : Prop :=
  ∃ ts, Reads t ts ∧ ∀ s : Spelling, ∃ c, Parses (.chain .or) (s.fill ts) c ∧
    ∀ W, RespectsConstants W → c.truth W = m s.operand W

theorem Conjoins.append {ts us : List Token} {m n : (Atom → Truth) → Truth}
    (first : Conjoins ts m) (second : Conjoins us n) :
    Conjoins (ts ++ .keyword .and :: us) fun W => (m W).and (n W) where
  alone := by
    obtain ⟨d, parses, truth⟩ := second.alone
    obtain ⟨c, joined, both⟩ := first.before parses
    refine ⟨c, joined, fun W respects => ?_⟩
    rw [both W respects, truth W respects]
  before := by
    intro vs d later
    obtain ⟨c, parses, truth⟩ := second.before later
    obtain ⟨e, joined, all⟩ := first.before parses
    refine ⟨e, by simpa using joined, fun W respects => ?_⟩
    rw [all W respects, truth W respects, Truth.and_assoc]

theorem Conjoins.of_link {ts : List Token} {c : Condition Atom} {m : (Atom → Truth) → Truth}
    (parses : Parses .negation ts c) (truth : ∀ W, RespectsConstants W → c.truth W = m W) :
    Conjoins ts m where
  alone := ⟨c, parses.single (c := .and), truth⟩
  before := by
    intro us d later
    refine ⟨_, parses.chain (c := .and) later, fun W respects => ?_⟩
    rw [← truth W respects]
    rfl

theorem Conjoins.of_whole {ts : List Token} {c : Condition Atom}
    (h : whole (.chain .and) ts = some c) : Conjoins ts fun W => c.truth W where
  alone := ⟨c, .of_whole h, fun _ _ => rfl⟩
  before := by
    intro us d later
    obtain ⟨e, parses, truth⟩ := Parses.continue h later
    exact ⟨e, parses, fun W _ => truth W⟩

theorem Contributes.append {t u : Template} {m n : Reading} (first : Contributes t m)
    (second : Contributes u n) :
    Contributes (t ++ .text " AND " :: u) fun operand W =>
      (m operand W).and (n operand W) := by
  obtain ⟨ts, readsFirst, conjoinsFirst⟩ := first
  obtain ⟨us, readsSecond, conjoinsSecond⟩ := second
  refine ⟨_, readsFirst.chain .and readsSecond, fun s => ?_⟩
  simpa [Connective.keyword] using (conjoinsFirst s).append (conjoinsSecond s)

theorem Contributes.expresses {t : Template} {m : Reading} (h : Contributes t m) :
    Expresses t m := by
  obtain ⟨ts, reads, conjoins⟩ := h
  refine ⟨ts, reads, fun s => ?_⟩
  obtain ⟨c, parses, truth⟩ := (conjoins s).alone
  exact ⟨c, parses.single (c := .or), truth⟩

theorem fill_of_no_slots {ts : List Token} (none : slotValues ts = []) (s : Spelling) :
    s.fill ts = ts := by
  induction ts with
  | nil => rfl
  | cons t ts ih => cases t <;> simp_all [slotValues]

theorem Filling.fill_of_no_slots {ts : List Token} (none : slotValues ts = []) (f : Filling)
    (n : Nat) : f.fill n ts = ts := by
  induction ts with
  | nil => rfl
  | cons t ts ih => cases t <;> simp_all [slotValues, Filling.fill]

theorem Reads.of_raw {sql : String} {ts : List Token} {level : Level} {c : Condition Atom}
    (lexed : tokens sql = some ts) (read : whole level ts = some c) : Reads [.text sql] ts where
  slots := slotValues_tokens lexed
  unmarked := unmarked_of_whole read
  lexes f n := by
    rw [Filling.fill_of_no_slots (slotValues_tokens lexed)]
    simpa [Filling.write] using Lexes.of_tokens lexed

theorem Expresses.inline {t : Template} {m : Reading} (h : Expresses t m) :
    ∃ c, parseText t.inline = some c ∧
      ∀ W, RespectsConstants W → c.truth W = m Spelling.literalOperand W := by
  obtain ⟨ts, reads, each⟩ := h
  obtain ⟨c, parses, truth⟩ := each .literal
  exact ⟨c, reads.parseText parses, truth⟩

theorem Expresses.marked {t : Template} {m : Reading} (h : Expresses t m)
    (style : Placeholder) (earlier later : List Value) :
    ∃ c, parseBound (earlier ++ t.values ++ later) earlier.length
        (t.marked style earlier.length) = some c ∧
      ∀ W, RespectsConstants W → c.truth W = m .value W := by
  obtain ⟨ts, reads, each⟩ := h
  obtain ⟨c, parses, truth⟩ := each .bound
  rw [fill_bound] at parses
  exact ⟨c, reads.parseBound parses style earlier later, truth⟩

theorem condition_eq_whole (ts : List Token) : condition ts = whole (.chain .or) ts := rfl

end Syntax

namespace Expr

open Syntax

-- Assigned are the tests of an expression, and the atoms that raw text is read as.
def truthOn (operand : Value → Operand) (W : Atom → Truth) : Expr → Truth
  | .raw sql => (parseText sql).elim .unknown (Condition.truth W)
  | e => e.truth fun t => W (Leaf.atom operand (.test t))

def IsAddable : Expr → Prop
  | .raw sql => (parseText sql).isSome
  | e => e.IsPlain

-- Raw text may have an OR only inside parentheses.
def IsTight : Expr → Prop
  | .raw sql => ((tokens sql).bind (whole (.chain .and))).isSome
  | _ => True

def conjunction (operand : Value → Operand) (W : Atom → Truth) (es : List Expr) : Truth :=
  es.foldr (fun e later => (e.truthOn operand W).and later) .true

theorem truthOn_raw (operand : Value → Operand) (W : Atom → Truth) (sql : String) :
    (raw sql).truthOn operand W = (parseText sql).elim .unknown (Condition.truth W) := rfl

theorem truthOn_of_isPlain {e : Expr} (plain : e.IsPlain) (operand : Value → Operand)
    (W : Atom → Truth) : e.truthOn operand W = e.truth fun t => W (Leaf.atom operand (.test t)) := by
  cases e with
  | raw sql => exact plain.elim
  | _ => rfl

theorem truth_spelled {e : Expr} (plain : e.IsPlain) (operand : Value → Operand) {W : Atom → Truth}
    (respects : RespectsConstants W) :
    (e.reading.map (Leaf.atom operand)).truth W = e.truthOn operand W := by
  have leaves : (fun l => W (Leaf.atom operand l)) =
      Leaf.truth fun t => W (Leaf.atom operand (.test t)) := by
    funext l
    cases l with
    | test t => rfl
    | constant holds => exact respects holds
  rw [Condition.truth_map, leaves, truth_reading _ e plain, truthOn_of_isPlain plain]

section

variable {config : Config} {quote : Char} (configured : config.quote = some quote)
  (known : quote = '"' ∨ quote = '`')

include configured known

theorem expresses_of_isPlain {e : Expr} (plain : e.IsPlain) :
    Expresses (e.template config) fun operand W => e.truthOn operand W := by
  obtain ⟨ts, reads, parses⟩ := (means_template configured known e plain).whole
  exact ⟨ts, reads, fun s => ⟨_, parses s, fun W => truth_spelled plain s.operand⟩⟩

theorem conjoins_of_isPlain {e : Expr} (plain : e.IsPlain) :
    Contributes (parenthesize e.isGroup (e.template config)) fun operand W =>
      e.truthOn operand W := by
  obtain ⟨ts, reads, parses⟩ := (means_template configured known e plain).inside
  exact ⟨ts, reads, fun s => .of_link (parses s) fun W => truth_spelled plain s.operand⟩

omit configured known in
theorem expresses_of_raw {sql : String} (read : (parseText sql).isSome) :
    Expresses [.text sql] fun operand W => (raw sql).truthOn operand W := by
  obtain ⟨c, parsed⟩ := Option.isSome_iff_exists.mp read
  obtain ⟨ts, lexed, h⟩ := Option.bind_eq_some_iff.mp parsed
  rw [condition_eq_whole] at h
  refine ⟨ts, .of_raw lexed h, fun s => ⟨c, ?_, fun W _ => ?_⟩⟩
  · rw [fill_of_no_slots (slotValues_tokens lexed)]
    exact .of_whole h
  · simp [truthOn_raw, parsed]

omit configured known in
theorem conjoins_of_raw {sql : String} (tight : (raw sql).IsTight) :
    Contributes [.text sql] fun operand W => (raw sql).truthOn operand W := by
  obtain ⟨c, read⟩ := Option.isSome_iff_exists.mp tight
  obtain ⟨ts, lexed, h⟩ := Option.bind_eq_some_iff.mp read
  have parsed : parseText sql = some c := by
    rw [parseText, lexed]
    exact condition_of_parses ((Parses.of_whole h).single (c := .or))
  refine ⟨ts, .of_raw lexed h, fun s => ?_⟩
  rw [fill_of_no_slots (slotValues_tokens lexed)]
  simpa [truthOn_raw, parsed] using Conjoins.of_whole h

theorem conjoins_item {e : Expr} (addable : e.IsAddable) (tight : e.IsTight) :
    Contributes (parenthesize e.isGroup (e.template config)) fun operand W =>
      e.truthOn operand W := by
  cases e with
  | raw sql => exact conjoins_of_raw tight
  | _ => exact conjoins_of_isPlain configured known addable

theorem conjoins_items (item : Expr) (rest : List Expr)
    (addable : ∀ e ∈ item :: rest, e.IsAddable) (tight : ∀ e ∈ item :: rest, e.IsTight) :
    Contributes (Template.join " AND " (templates config (item :: rest)))
      fun operand W => conjunction operand W (item :: rest) := by
  have first := conjoins_item configured known (addable item (by simp)) (tight item (by simp))
  induction rest generalizing item with
  | nil => simpa [templates, conjunction] using first
  | cons next rest ih =>
    have member (e : Expr) (h : e ∈ next :: rest) : e ∈ item :: next :: rest := by simp_all
    have nextFirst :=
      conjoins_item configured known (addable next (by simp)) (tight next (by simp))
    have later := ih next (fun e h => addable e (member e h)) (fun e h => tight e (member e h))
      nextFirst
    simpa [templates, conjunction] using first.append later

end

def conjuncts : Expr → List Expr
  | .all items => items
  | e => [e]

theorem and_eq_all (e other : Expr) : e.and other = .all (e.conjuncts ++ [other]) := by
  cases e <;> rfl

theorem foldl_and (e other : Expr) (rest : List Expr) :
    (other :: rest).foldl Expr.and e = .all (e.conjuncts ++ other :: rest) := by
  induction rest generalizing e other with
  | nil => simp [and_eq_all]
  | cons next rest ih =>
    rw [List.foldl_cons, ih, and_eq_all]
    simp [conjuncts]

theorem foldl_addTo (e : Expr) (rest : List Expr) :
    rest.foldl (fun earlier e => some (addTo earlier e)) (some e) =
      some (rest.foldl Expr.and e) := by
  induction rest generalizing e with
  | nil => rfl
  | cons next rest ih => exact ih (e.and next)

theorem conjunction_append (operand : Value → Operand) (W : Atom → Truth) (es more : List Expr) :
    conjunction operand W (es ++ more) =
      (conjunction operand W es).and (conjunction operand W more) := by
  induction es with
  | nil => simp [conjunction]
  | cons e es ih => simp_all [conjunction, Truth.and_assoc]

theorem arePlain_iff (items : List Expr) : ArePlain items ↔ ∀ e ∈ items, e.IsPlain := by
  induction items with
  | nil => simp [ArePlain]
  | cons item items ih => simp [ArePlain, ih]

theorem IsPlain.isAddable {e : Expr} (plain : e.IsPlain) : e.IsAddable ∧ e.IsTight := by
  cases e with
  | raw sql => exact plain.elim
  | _ => exact ⟨plain, trivial⟩

theorem addable_conjuncts {e : Expr} (addable : e.IsAddable) (tight : e.IsTight) :
    ∀ item ∈ e.conjuncts, item.IsAddable ∧ item.IsTight := by
  cases e with
  | all items =>
    have plain : ∀ item ∈ items, item.IsPlain := (arePlain_iff items).mp addable
    exact fun item member => (plain item member).isAddable
  | _ => simpa [conjuncts] using ⟨addable, tight⟩

theorem conjunction_conjuncts {e : Expr} (addable : e.IsAddable) (operand : Value → Operand)
    (W : Atom → Truth) : conjunction operand W e.conjuncts = e.truthOn operand W := by
  cases e with
  | all items =>
    have plain : ∀ item ∈ items, item.IsPlain := (arePlain_iff items).mp addable
    simp only [conjuncts, truthOn, truth, allTruth_eq_foldr]
    refine List.foldr_ext _ _ _ fun item member later => ?_
    rw [truthOn_of_isPlain (plain item member)]
  | _ => simp [conjuncts, conjunction]

theorem expresses_added {config : Config} {quote : Char} (configured : config.quote = some quote)
    (known : quote = '"' ∨ quote = '`') (first : Expr) (rest : List Expr)
    (addable : ∀ e ∈ first :: rest, e.IsAddable)
    (safe : rest = [] ∨ ∀ e ∈ first :: rest, e.IsTight) :
    Expresses ((rest.foldl Expr.and first).template config) fun operand W =>
      conjunction operand W (first :: rest) := by
  have firstAddable := addable first (by simp)
  cases rest with
  | nil =>
    cases first with
    | raw sql => simpa [conjunction, template] using expresses_of_raw firstAddable
    | _ => simpa [conjunction] using expresses_of_isPlain configured known firstAddable
  | cons next rest =>
    have tight := safe.resolve_left (by simp)
    have conjuncts := addable_conjuncts firstAddable (tight first (by simp))
    have each : ∀ e ∈ first.conjuncts ++ next :: rest, e.IsAddable ∧ e.IsTight := by
      intro e member
      rcases List.mem_append.mp member with member | member
      · exact conjuncts e member
      · exact ⟨addable e (by simp [member]), tight e (by simp [member])⟩
    obtain ⟨item, items, shape⟩ : ∃ item items, first.conjuncts ++ next :: rest = item :: items :=
      List.exists_cons_of_ne_nil (by simp)
    have same (operand : Value → Operand) (W : Atom → Truth) :
        conjunction operand W (item :: items) = conjunction operand W (first :: next :: rest) := by
      rw [← shape, conjunction_append, conjunction_conjuncts firstAddable]
      rfl
    rw [foldl_and, shape]
    rw [shape] at each
    have conjoins := conjoins_items configured known item items (fun e h => (each e h).1)
      fun e h => (each e h).2
    simp only [same] at conjoins
    exact conjoins.expresses

end Expr

end SqlClauses
