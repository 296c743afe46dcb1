import SqlClauses.Proofs.Condition.Grammar

set_option autoImplicit false

namespace SqlClauses.Syntax

namespace Level

def stop : Level → Token → Bool
  | _, .closing => true
  | .negation, .keyword .and => true
  | .negation, .keyword .or => true
  | .chain .and, .keyword .or => true
  | _, _ => false

def height : Level → Nat
  | .negation => 0
  | .chain .and => 1
  | .chain .or => 2

def Stops (level : Level) (rest : List Token) : Prop :=
  ∀ t ∈ rest.head?, level.stop t = true

theorem Stops.nil (level : Level) : level.Stops [] := by
  simp [Stops]

theorem stops_closing (level : Level) (rest : List Token) : level.Stops (.closing :: rest) := by
  simp [Stops, stop]

theorem stops_connective (c : Connective) (rest : List Token) :
    c.link.Stops (.keyword c.keyword :: rest) := by
  cases c <;> simp [Stops, stop, Connective.link, Connective.keyword]

theorem Stops.link {c : Connective} {rest : List Token} (h : (chain c).Stops rest) :
    c.link.Stops rest := by
  intro t first
  have stopped := h t first
  cases c <;> simp only [stop] at stopped <;> split at stopped <;> simp_all [Connective.link, stop]

theorem height_link (c : Connective) : (chain c).height = c.link.height + 1 := by
  cases c <;> rfl

theorem not_stop_keyword (c : Connective) : (chain c).stop (.keyword c.keyword) = false := by
  cases c <;> rfl

end Level

def Parses (level : Level) (ts : List Token) (c : Condition Atom) : Prop :=
  ∀ fuel rest, 3 * ts.length + level.height ≤ fuel → level.Stops rest →
    parse fuel level (ts ++ rest) = some (c, rest)

theorem condition_of_parses {ts : List Token} {c : Condition Atom}
    (h : Parses (.chain .or) ts c) : condition ts = some c := by
  have read := h (3 * ts.length + 2) [] (Nat.le_refl _) (.nil _)
  rw [List.append_nil] at read
  rw [condition, read]

namespace Parses

theorem single {c : Connective} {ts : List Token} {d : Condition Atom}
    (h : Parses c.link ts d) : Parses (.chain c) ts d := by
  intro fuel rest enough stops
  rw [Level.height_link] at enough
  cases fuel with
  | zero => omega
  | succ fuel =>
    have first := h fuel rest (by omega) stops.link
    rw [parse, first]
    cases rest with
    | nil => rfl
    | cons t rest =>
      have stopped := stops t rfl
      cases t with
      | keyword k =>
        have other : k ≠ c.keyword := by
          rintro rfl
          rw [Level.not_stop_keyword] at stopped
          contradiction
        simp [other]
      | _ => rfl

theorem chain {c : Connective} {ts us : List Token} {left right : Condition Atom}
    (first : Parses c.link ts left) (second : Parses (.chain c) us right) :
    Parses (.chain c) (ts ++ .keyword c.keyword :: us) (.chain c left right) := by
  intro fuel rest enough stops
  have height := Level.height_link c
  simp only [List.length_append, List.length_cons] at enough
  cases fuel with
  | zero => omega
  | succ fuel =>
    -- The connective stops the first link, and its three steps pay for this one.
    have link := first fuel (.keyword c.keyword :: (us ++ rest)) (by omega)
      (Level.stops_connective c _)
    have more := second fuel rest (by omega) stops
    rw [List.append_assoc, List.cons_append, parse, link]
    simp [more]

theorem not {ts : List Token} {c : Condition Atom} (h : Parses .negation ts c) :
    Parses .negation (.keyword .not :: ts) (.not c) := by
  intro fuel rest enough stops
  simp only [List.length_cons] at enough
  cases fuel with
  | zero => omega
  | succ fuel =>
    have inner := h fuel rest (by omega) stops
    rw [List.cons_append, parse, inner]
    rfl

theorem parens {ts : List Token} {c : Condition Atom} (h : Parses (.chain .or) ts c) :
    Parses .negation (.opening :: (ts ++ [.closing])) c := by
  intro fuel rest enough _
  simp only [List.length_cons, List.length_append, List.length_nil] at enough
  cases fuel with
  | zero => omega
  | succ fuel =>
    have closed : ts ++ [.closing] ++ rest = ts ++ .closing :: rest := by simp
    -- The two parentheses pay for the way back up to a chain of OR.
    have height : (Level.chain .or).height = 2 := rfl
    have inner := h fuel (.closing :: rest) (by omega) (Level.stops_closing _ _)
    rw [List.cons_append, parse, closed, inner]
    rfl

end Parses

theorem parse_predicate {ts later : List Token} {a : Atom} (fuel : Nat)
    (h : Syntax.predicate ts = some (a, later)) :
    parse (fuel + 1) .negation ts = some (.atom a, later) := by
  cases ts with
  | nil => cases h
  | cons t ts =>
    cases t with
    | keyword k =>
      cases k with
      | not => cases h
      | _ => simp [parse, h]
    | opening => cases h
    | _ => simp [parse, h]

theorem Parses.predicate {ts : List Token} {a : Atom}
    (h : ∀ rest, Level.negation.Stops rest → Syntax.predicate (ts ++ rest) = some (a, rest)) :
    Parses .negation ts (.atom a) := by
  intro fuel rest enough stops
  cases ts with
  | nil =>
    have empty := h [] (.nil _)
    cases empty
  | cons t ts =>
    simp only [List.length_cons] at enough
    cases fuel with
    | zero => omega
    | succ fuel => exact parse_predicate fuel (h rest stops)

end SqlClauses.Syntax
