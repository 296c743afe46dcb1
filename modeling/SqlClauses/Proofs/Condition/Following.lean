import SqlClauses.Proofs.Condition.Slots

set_option autoImplicit false

namespace SqlClauses.Syntax

namespace Scan

-- Fences that a boundary does not end, and tokens that stand in a text.
def Fair : Scan → Prop
  | .fenced f _ => f.quote = '\'' ∨ f.quote = '"' ∨ f.quote = '`'
  | .fenceEnd f _ => f.quote = '\'' ∨ f.quote = '"' ∨ f.quote = '`'
  | .whole t => slotValues [t] = []
  | _ => True

theorem fair_of_start {c : Char} {s : Scan} (h : start c = some s) : s.Fair := by
  unfold start at h
  split at h
  · cases h
    trivial
  · split at h
    · cases h
      trivial
    · unfold symbol at h
      split at h <;> cases h <;> simp [Fair, Fence.quote, slotValues]

theorem Fair.extend {s s' : Scan} (fair : s.Fair) {c : Char} (h : s.extend c = some s') :
    s'.Fair := by
  cases s with
  | idle => cases h
  | whole t => cases h
  | word read =>
    simp only [Scan.extend] at h
    split at h
    · cases h
      trivial
    · split at h <;> cases h
      exact .inl rfl
  | number read =>
    simp only [Scan.extend] at h
    split at h <;> cases h
    trivial
  | position read =>
    simp only [Scan.extend] at h
    split at h <;> cases h
    trivial
  | order alone withEqual =>
    simp only [Scan.extend] at h
    split at h <;> cases h
    rfl
  | fenced f read =>
    cases h
    split <;> exact fair
  | fenceEnd f read =>
    simp only [Scan.extend] at h
    split at h <;> cases h
    exact fair

theorem Fair.ends {s : Scan} (fair : s.Fair) {ts : List Token} (finish : s.finish = some ts)
    {rest : List Char} (boundary : Boundary rest) : s.Ends rest := by
  intro c first
  have known := boundary c first
  cases s with
  | fenced f read => cases finish
  | fenceEnd f read =>
    have apart : c ≠ f.quote := by
      rcases known with rfl | rfl | rfl <;> rcases fair with quote | quote | quote <;> simp [quote]
    simp [Scan.extend, apart]
  | _ => rcases known with rfl | rfl | rfl <;> simp [Scan.extend, isWordChar]

theorem slotValues_bareWord (word : List Char) : slotValues [bareWord word] = [] := by
  unfold bareWord
  split
  · rfl
  · split <;> rfl

theorem Fair.slotValues_finish {s : Scan} (fair : s.Fair) {ts : List Token}
    (finish : s.finish = some ts) : slotValues ts = [] := by
  cases s with
  | word read =>
    cases finish
    exact slotValues_bareWord read
  | position read => cases read <;> cases finish; rfl
  | order alone withEqual => cases alone <;> cases finish; rfl
  | fenceEnd f read => cases f <;> cases finish <;> rfl
  | whole t =>
    cases finish
    exact fair
  | _ => cases finish <;> rfl

end Scan

theorem scan_cons_of_ends {s : Scan} {c : Char} {text : List Char} (ends : s.extend c = none) :
    scan s (c :: text) = s.finish.bind fun read => (Scan.start c).bind fun begun =>
      (scan begun text).map (read ++ ·) := by
  rw [scan, ends]
  rfl

theorem scan_follow {text : List Char} {s : Scan} (fair : s.Fair) {ts : List Token}
    (read : scan s text = some ts) :
    slotValues ts = [] ∧ ∀ rest, Boundary rest →
      scan s (text ++ rest) = (ts ++ ·) <$> scan .idle rest := by
  induction text generalizing s ts with
  | nil =>
    have finish : s.finish = some ts := read
    refine ⟨fair.slotValues_finish finish, fun rest boundary => ?_⟩
    rw [List.nil_append, scan_of_ends (fair.ends finish boundary), finish]
    rfl
  | cons c text ih =>
    cases extended : s.extend c with
    | some s' =>
      rw [scan, extended] at read
      obtain ⟨slots, follow⟩ := ih (fair.extend extended) read
      refine ⟨slots, fun rest boundary => ?_⟩
      rw [List.cons_append, scan, extended]
      exact follow rest boundary
    | none =>
      rw [scan_cons_of_ends extended] at read
      obtain ⟨first, finish, read⟩ := Option.bind_eq_some_iff.mp read
      obtain ⟨begun, start, read⟩ := Option.bind_eq_some_iff.mp read
      obtain ⟨more, later, rfl⟩ := Option.map_eq_some_iff.mp read
      obtain ⟨slots, follow⟩ := ih (Scan.fair_of_start start) later
      refine ⟨?_, fun rest boundary => ?_⟩
      · rw [slotValues_append, fair.slotValues_finish finish, slots, List.append_nil]
      · rw [List.cons_append, scan_cons_of_ends extended, finish, start]
        simp [follow rest boundary, Function.comp_def]

theorem Lexes.of_tokens {text : String} {ts : List Token} (h : tokens text = some ts) :
    Lexes text.toList ts :=
  (scan_follow (s := .idle) trivial h).2

theorem slotValues_tokens {text : String} {ts : List Token} (h : tokens text = some ts) :
    slotValues ts = [] :=
  (scan_follow (s := .idle) trivial h).1

-- A reader that takes no mark, and takes the same in front of whatever stops a link.
def Steady {A : Type} (reader : List Token → Option (A × List Token)) : Prop :=
  ∀ {ts : List Token} {x : A} {later : List Token}, reader ts = some (x, later) →
    ts.filter Token.isMark = later.filter Token.isMark ∧
      ∀ rest, Level.negation.Stops rest → reader (ts ++ rest) = some (x, later ++ rest)

theorem furtherParts_follow (ts : List Token) :
    ts.filter Token.isMark = (furtherParts ts).2.filter Token.isMark ∧
      ∀ rest, Level.negation.Stops rest →
        furtherParts (ts ++ rest) = ((furtherParts ts).1, (furtherParts ts).2 ++ rest) := by
  fun_induction furtherParts ts with
  | case1 part ts parts later read ih =>
    refine ⟨by simpa [Token.isMark, read] using ih.1, fun rest stops => ?_⟩
    simp [furtherParts, ih.2 rest stops, read]
  | case2 ts other =>
    refine ⟨rfl, fun rest stops => furtherParts_of_noDot fun part later same => ?_⟩
    cases ts with
    | nil => exact noDot_of_stops stops part later same
    | cons t ts =>
      obtain ⟨dot, same⟩ := List.cons.inj same
      cases ts with
      | nil =>
        obtain rfl : rest = .name part :: later := same
        cases stops _ rfl
      | cons u ts =>
        obtain ⟨name, -⟩ := List.cons.inj same
        exact other part ts (by rw [dot, name])

theorem unsignedOperand_steady : Steady unsignedOperand := by
  intro ts x later h
  unfold unsignedOperand at h
  split at h
  case h_1 part ts =>
    cases h
    obtain ⟨marks, follow⟩ := furtherParts_follow ts
    refine ⟨by simpa [Token.isMark] using marks, fun rest stops => ?_⟩
    simp [unsignedOperand, follow rest stops]
  all_goals cases h <;> exact ⟨rfl, fun _ _ => rfl⟩

theorem operand_steady : Steady operand := by
  intro ts x later h
  unfold operand at h
  split at h
  next ts =>
    obtain ⟨⟨y, later'⟩, inner, same⟩ := Option.map_eq_some_iff.mp h
    cases same
    obtain ⟨marks, follow⟩ := unsignedOperand_steady inner
    refine ⟨by simpa [Token.isMark] using marks, fun rest stops => ?_⟩
    simp [operand, follow rest stops]
  next =>
    obtain ⟨marks, follow⟩ := unsignedOperand_steady h
    refine ⟨marks, fun rest stops => ?_⟩
    have read := follow rest stops
    cases ts with
    | nil => cases h
    | cons t ts =>
      cases t with
      | minus => cases h
      | _ => exact read

theorem operands_steady (fuel : Nat) : Steady (operands fuel) := by
  induction fuel with
  | zero => intro ts x later h; cases h
  | succ fuel ih =>
    intro ts xs later h
    obtain ⟨⟨x, next⟩, first, h⟩ := Option.bind_eq_some_iff.mp h
    obtain ⟨marks, follow⟩ := operand_steady first
    match next, h with
    | .comma :: next, h =>
      obtain ⟨⟨items, later'⟩, more, same⟩ := Option.bind_eq_some_iff.mp h
      cases same
      obtain ⟨laterMarks, laterFollow⟩ := ih more
      refine ⟨marks.trans laterMarks, fun rest stops => ?_⟩
      simp [operands, follow rest stops, laterFollow rest stops]
    | .closing :: next, h =>
      cases h
      refine ⟨marks, fun rest stops => ?_⟩
      simp [operands, follow rest stops]

theorem operands_mono {fuel more : Nat} (enough : fuel ≤ more) {ts : List Token}
    {r : List Operand × List Token} (h : operands fuel ts = some r) :
    operands more ts = some r := by
  induction fuel generalizing more ts r with
  | zero => cases h
  | succ fuel ih =>
    cases more with
    | zero => omega
    | succ more =>
      obtain ⟨⟨x, next⟩, first, h⟩ := Option.bind_eq_some_iff.mp h
      match next, h with
      | .comma :: next, h =>
        obtain ⟨⟨items, later⟩, listed, same⟩ := Option.bind_eq_some_iff.mp h
        cases same
        have again := ih (Nat.le_of_succ_le_succ enough) listed
        simp [operands, first, again]
      | .closing :: next, h =>
        cases h
        simp [operands, first]

theorem negatable_steady (x : Operand) (negated : Bool) : Steady (negatable x negated) := by
  intro ts a later h
  unfold negatable at h
  split at h
  next ts =>
    obtain ⟨⟨y, later'⟩, right, same⟩ := Option.bind_eq_some_iff.mp h
    cases same
    obtain ⟨marks, follow⟩ := operand_steady right
    refine ⟨marks, fun rest stops => ?_⟩
    simp [negatable, follow rest stops]
  next ts =>
    obtain ⟨⟨low, next⟩, first, h⟩ := Option.bind_eq_some_iff.mp h
    obtain ⟨lowMarks, lowFollow⟩ := operand_steady first
    dsimp only at h
    split at h
    next next =>
      obtain ⟨⟨high, later'⟩, second, same⟩ := Option.bind_eq_some_iff.mp h
      cases same
      obtain ⟨highMarks, highFollow⟩ := operand_steady second
      refine ⟨lowMarks.trans highMarks, fun rest stops => ?_⟩
      simp [negatable, lowFollow rest stops, highFollow rest stops]
    next => cases h
  next ts =>
    obtain ⟨⟨items, later'⟩, listed, same⟩ := Option.bind_eq_some_iff.mp h
    cases same
    obtain ⟨marks, follow⟩ := operands_steady _ listed
    refine ⟨marks, fun rest stops => ?_⟩
    -- The fuel of a list is the number of tokens behind it, which has grown.
    have more := operands_mono (by simp : ts.length ≤ (ts ++ rest).length) (follow rest stops)
    rw [List.length_append] at more
    simp [negatable, more]
  next => cases h

theorem Level.Stops.cases {rest : List Token} (stops : Level.negation.Stops rest) :
    rest = [] ∨ ∃ later, rest = .closing :: later ∨ rest = .keyword .and :: later ∨
      rest = .keyword .or :: later := by
  cases rest with
  | nil => exact .inl rfl
  | cons t later =>
    have stopped := stops t rfl
    cases t with
    | closing => exact .inr ⟨later, .inl rfl⟩
    | keyword k =>
      cases k with
      | and => exact .inr ⟨later, .inr (.inl rfl)⟩
      | or => exact .inr ⟨later, .inr (.inr rfl)⟩
      | _ => cases stopped
    | _ => cases stopped

theorem predicateOf_steady (x : Operand) : Steady (predicateOf x) := by
  intro ts a later h
  unfold predicateOf at h
  split at h
  case h_1 op ts =>
    obtain ⟨⟨y, later'⟩, right, same⟩ := Option.bind_eq_some_iff.mp h
    cases same
    obtain ⟨marks, follow⟩ := operand_steady right
    refine ⟨marks, fun rest stops => ?_⟩
    simp [predicateOf, follow rest stops]
  case h_2 | h_3 =>
    cases h
    exact ⟨rfl, fun _ _ => rfl⟩
  case h_4 | h_5 | h_6 | h_7 => exact negatable_steady x _ h
  case h_8 operator isNull isNotNull not like between among =>
    cases h
    refine ⟨rfl, fun rest stops => ?_⟩
    -- What stops a link completes none of the predicates that these tokens could begin.
    have stopped := stops.cases
    cases ts with
    | nil => obtain rfl | ⟨_, rfl | rfl | rfl⟩ := stopped <;> rfl
    | cons t ts =>
      cases t with
      | operator op => exact absurd rfl (operator op ts)
      | keyword k =>
        cases k with
        | not => exact absurd rfl (not ts)
        | like => exact absurd rfl (like ts)
        | between => exact absurd rfl (between ts)
        | among => exact absurd rfl (among ts)
        | is =>
          cases ts with
          | nil => obtain rfl | ⟨_, rfl | rfl | rfl⟩ := stopped <;> rfl
          | cons t ts =>
            cases t with
            | keyword k =>
              cases k with
              | null => exact absurd rfl (isNull ts)
              | not =>
                cases ts with
                | nil => obtain rfl | ⟨_, rfl | rfl | rfl⟩ := stopped <;> rfl
                | cons t ts =>
                  cases t with
                  | keyword k =>
                    cases k with
                    | null => exact absurd rfl (isNotNull ts)
                    | _ => rfl
                  | _ => rfl
              | _ => rfl
            | _ => rfl
        | _ => rfl
      | _ => rfl

theorem predicate_steady : Steady predicate := by
  intro ts a later h
  obtain ⟨⟨x, next⟩, first, h⟩ := Option.bind_eq_some_iff.mp h
  obtain ⟨marks, follow⟩ := operand_steady first
  obtain ⟨laterMarks, laterFollow⟩ := predicateOf_steady x h
  refine ⟨marks.trans laterMarks, fun rest stops => ?_⟩
  simp [predicate, follow rest stops, laterFollow rest stops]

-- A chain goes on with its connective, and ends in front of anything else.
theorem parse_chain_iff {fuel : Nat} {k : Connective} {ts later : List Token}
    {c : Condition Atom} :
    parse (fuel + 1) (.chain k) ts = some (c, later) ↔
      ∃ left next, parse fuel k.link ts = some (left, next) ∧
        ((∃ more right, next = .keyword k.keyword :: more ∧
          parse fuel (.chain k) more = some (right, later) ∧ c = .chain k left right) ∨
        (c = left ∧ later = next ∧ ∀ more, next ≠ .keyword k.keyword :: more)) := by
  constructor
  · intro h
    obtain ⟨⟨left, next⟩, first, h⟩ := Option.bind_eq_some_iff.mp h
    refine ⟨left, next, first, ?_⟩
    cases next with
    | nil =>
      cases h
      exact .inr ⟨rfl, rfl, by simp⟩
    | cons t more =>
      cases t with
      | keyword word =>
        by_cases same : word = k.keyword
        · simp only [same, if_true] at h
          obtain ⟨⟨right, later'⟩, second, joined⟩ := Option.bind_eq_some_iff.mp h
          cases joined
          exact .inl ⟨more, right, by rw [same], second, rfl⟩
        · simp only [same, if_false] at h
          cases h
          exact .inr ⟨rfl, rfl, by simp [same]⟩
      | _ =>
        cases h
        exact .inr ⟨rfl, rfl, by simp⟩
  · rintro ⟨left, next, first, ⟨more, right, rfl, second, rfl⟩ | ⟨rfl, rfl, ends⟩⟩
    · simp [parse, first, second]
    · rw [parse, first]
      cases later with
      | nil => rfl
      | cons t more =>
        cases t with
        | keyword word =>
          have other : word ≠ k.keyword := fun same => ends more (by rw [same])
          simp [other]
        | _ => rfl

theorem parse_negation_iff {fuel : Nat} {ts later : List Token} {c : Condition Atom} :
    parse (fuel + 1) .negation ts = some (c, later) ↔
      (∃ more inner, ts = .keyword .not :: more ∧
        parse fuel .negation more = some (inner, later) ∧ c = .not inner) ∨
      (∃ more, ts = .opening :: more ∧
        parse fuel (.chain .or) more = some (c, .closing :: later)) ∨
      ∃ a, predicate ts = some (a, later) ∧ c = .atom a := by
  constructor
  · intro h
    have atom (other : ((predicate ts).bind fun read => some (.atom read.1, read.2)) =
        some (c, later)) : ∃ a, predicate ts = some (a, later) ∧ c = .atom a := by
      obtain ⟨⟨a, later'⟩, read, same⟩ := Option.bind_eq_some_iff.mp other
      cases same
      exact ⟨a, read, rfl⟩
    cases ts with
    | nil => exact .inr (.inr (atom h))
    | cons t more =>
      cases t with
      | keyword k =>
        cases k with
        | not =>
          obtain ⟨⟨inner, later'⟩, read, same⟩ := Option.bind_eq_some_iff.mp h
          cases same
          exact .inl ⟨more, inner, rfl, read, rfl⟩
        | _ => exact .inr (.inr (atom h))
      | opening =>
        obtain ⟨⟨inner, next⟩, read, h⟩ := Option.bind_eq_some_iff.mp h
        dsimp only at h
        split at h
        next next =>
          cases h
          exact .inr (.inl ⟨more, rfl, read⟩)
        next => cases h
      | _ => exact .inr (.inr (atom h))
  · rintro (⟨more, inner, rfl, read, rfl⟩ | ⟨more, rfl, read⟩ | ⟨a, read, rfl⟩)
    · simp [parse, read]
    · simp [parse, read]
    · exact parse_predicate fuel read

theorem parse_mono {fuel enough : Nat} (le : fuel ≤ enough) {level : Level} {ts later : List Token}
    {c : Condition Atom} (h : parse fuel level ts = some (c, later)) :
    parse enough level ts = some (c, later) := by
  induction fuel generalizing enough level ts later c with
  | zero => cases h
  | succ fuel ih =>
    cases enough with
    | zero => omega
    | succ enough =>
      have le : fuel ≤ enough := by omega
      cases level with
      | chain k =>
        obtain ⟨left, next, first, ⟨more, right, shape, second, joined⟩ | ended⟩ :=
          parse_chain_iff.mp h
        · exact parse_chain_iff.mpr
            ⟨left, next, ih le first, .inl ⟨more, right, shape, ih le second, joined⟩⟩
        · exact parse_chain_iff.mpr ⟨left, next, ih le first, .inr ended⟩
      | negation =>
        rw [parse_negation_iff] at h ⊢
        obtain ⟨more, inner, shape, read, negated⟩ | ⟨more, shape, read⟩ | atom := h
        · exact .inl ⟨more, inner, shape, ih le read, negated⟩
        · exact .inr (.inl ⟨more, shape, ih le read⟩)
        · exact .inr (.inr atom)

theorem parse_follow {fuel : Nat} {level : Level} {ts later : List Token} {c : Condition Atom}
    (h : parse fuel level ts = some (c, later)) :
    ts.filter Token.isMark = later.filter Token.isMark ∧
      ∀ rest, Level.negation.Stops rest → (later = [] → level.Stops rest) →
        parse fuel level (ts ++ rest) = some (c, later ++ rest) := by
  induction fuel generalizing level ts later c with
  | zero => cases h
  | succ fuel ih =>
    cases level with
    | chain k =>
      obtain ⟨left, next, first, rest⟩ := parse_chain_iff.mp h
      obtain ⟨firstMarks, firstFollow⟩ := ih first
      obtain ⟨more, right, rfl, second, rfl⟩ | ⟨rfl, rfl, ends⟩ := rest
      · obtain ⟨secondMarks, secondFollow⟩ := ih second
        refine ⟨firstMarks.trans secondMarks, fun rest stops atEnd => ?_⟩
        exact parse_chain_iff.mpr ⟨left, _, firstFollow rest stops (by simp),
          .inl ⟨more ++ rest, right, rfl, secondFollow rest stops atEnd, rfl⟩⟩
      · refine ⟨firstMarks, fun rest stops atEnd => parse_chain_iff.mpr
          ⟨c, later ++ rest, firstFollow rest stops fun none => (atEnd none).link,
            .inr ⟨rfl, rfl, ?_⟩⟩⟩
        intro more same
        cases later with
        | nil =>
          have stopped := atEnd rfl _ (by rw [← List.nil_append rest, same]; rfl)
          rw [Level.not_stop_keyword] at stopped
          cases stopped
        | cons t later =>
          obtain ⟨rfl, -⟩ := List.cons.inj same
          exact ends later rfl
    | negation =>
      rw [parse_negation_iff] at h
      obtain ⟨more, inner, rfl, read, rfl⟩ | ⟨more, rfl, read⟩ | ⟨a, read, rfl⟩ := h
      · obtain ⟨marks, follow⟩ := ih read
        refine ⟨marks, fun rest stops atEnd => parse_negation_iff.mpr (.inl ?_)⟩
        exact ⟨more ++ rest, inner, rfl, follow rest stops atEnd, rfl⟩
      · obtain ⟨marks, follow⟩ := ih read
        refine ⟨marks, fun rest stops _ => parse_negation_iff.mpr (.inr (.inl ?_))⟩
        exact ⟨more ++ rest, rfl, follow rest stops (by simp)⟩
      · obtain ⟨marks, follow⟩ := predicate_steady read
        refine ⟨marks, fun rest stops _ => parse_negation_iff.mpr (.inr (.inr ?_))⟩
        exact ⟨a, follow rest stops, rfl⟩

theorem Level.Stops.negation {level : Level} {rest : List Token} (stops : level.Stops rest) :
    Level.negation.Stops rest := by
  cases level with
  | negation => exact stops
  | chain k =>
    cases k with
    | and => exact stops.link
    | or => exact stops.link.link

def whole (level : Level) (ts : List Token) : Option (Condition Atom) :=
  match parse (3 * ts.length + level.height) level ts with
  | some (c, []) => some c
  | _ => none

theorem parse_of_whole {level : Level} {ts : List Token} {c : Condition Atom}
    (h : whole level ts = some c) :
    parse (3 * ts.length + level.height) level ts = some (c, []) := by
  unfold whole at h
  split at h
  next read =>
    cases h
    exact read
  next => cases h

theorem Parses.of_whole {level : Level} {ts : List Token} {c : Condition Atom}
    (h : whole level ts = some c) : Parses level ts c := by
  intro fuel rest enough stops
  exact (parse_follow (parse_mono enough (parse_of_whole h))).2 rest stops.negation fun _ => stops

theorem unmarked_of_whole {level : Level} {ts : List Token} {c : Condition Atom}
    (h : whole level ts = some c) : ∀ t ∈ ts, t.isMark = false := by
  have none : ts.filter Token.isMark = [] := (parse_follow (parse_of_whole h)).1
  simpa using none

end SqlClauses.Syntax
