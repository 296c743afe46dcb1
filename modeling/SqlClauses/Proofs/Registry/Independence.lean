import SqlClauses.Proofs.Registry.Lifting

set_option autoImplicit false

namespace SqlClauses

variable {S : Type}

namespace Clause

theorem without_comm (name other : String) (clauses : List (Clause S)) :
    without name (without other clauses) = without other (without name clauses) :=
  List.filter_comm ..

theorem without_placeAfter_self {c : Clause S} {name : String} (same : c.name = name)
    (anchor : String) (clauses : List (Clause S)) :
    without name (c.placeAfter anchor clauses) = without name clauses := by
  induction clauses with
  | nil => simp [placeAfter, without, same]
  | cons d rest ih =>
    by_cases here : d.name = anchor
    · simp [placeAfter, here, without_cons, same]
    · simp [placeAfter, here, without_cons, ih]

theorem without_placeAfter {c : Clause S} {name anchor : String} (other : c.name ≠ name)
    (kept : anchor ≠ name) (clauses : List (Clause S)) :
    without name (c.placeAfter anchor clauses) = c.placeAfter anchor (without name clauses) := by
  induction clauses with
  | nil => simp [placeAfter, without, other]
  | cons d rest ih =>
    by_cases here : d.name = anchor
    · simp [placeAfter, here, without_cons, other, kept]
    · by_cases dropped : d.name = name <;>
        simp [placeAfter, here, without_cons, dropped, ih, kept.symm]

-- With neither anchor in the list, both clauses would come last, in the order of the calls.
theorem placeAfter_comm {c d : Clause S} {anchor other : String} (apart : anchor ≠ other)
    (first : c.name ≠ other) (second : d.name ≠ anchor) (clauses : List (Clause S))
    (known : anchor ∈ names clauses) :
    d.placeAfter other (c.placeAfter anchor clauses) =
      c.placeAfter anchor (d.placeAfter other clauses) := by
  induction clauses with
  | nil => simp [names] at known
  | cons e rest ih =>
    by_cases here : e.name = anchor
    · simp [placeAfter, here, apart, first]
    · by_cases there : e.name = other
      · simp [placeAfter, there, apart.symm, second]
      · simp only [names, List.map_cons, List.mem_cons] at known
        have later := ih (known.resolve_left (Ne.symm here))
        simp [placeAfter, here, there, later]

end Clause

namespace Registry

theorem contains_place (R : Registry S) (anchor : String) {c : Clause S} {name : String}
    (other : c.name ≠ name) : (R.place anchor c).contains name = R.contains name := by
  have moved := (Clause.perm_placeAfter anchor c (Clause.without c.name R.clauses)).map Clause.name
  have member : name ∈ Clause.names (R.place anchor c).clauses ↔ name ∈ Clause.names R.clauses := by
    rw [place, Clause.names, moved.mem_iff, List.map_cons, List.mem_cons, ← Clause.names,
      Clause.names_without, List.mem_filter]
    simp [other.symm]
  rw [Bool.eq_iff_iff, contains_iff_mem, contains_iff_mem, member]

theorem place_place (R : Registry S) (anchor : String) {c d : Clause S} (same : d.name = c.name) :
    (R.place anchor c).place anchor d = R.place anchor d := by
  simp only [place, same, Clause.without_placeAfter_self rfl, Clause.without_without]

theorem place_comm (R : Registry S) {c d : Clause S} {anchor other : String}
    (distinct : c.name ≠ d.name) (apart : anchor ≠ other) (first : c.name ≠ other)
    (second : d.name ≠ anchor) (self : c.name ≠ anchor) (known : R.contains anchor = true) :
    (R.place anchor c).place other d = (R.place other d).place anchor c := by
  have left : anchor ∈ Clause.names (Clause.without c.name (Clause.without d.name R.clauses)) := by
    simp only [Clause.names_without, List.mem_filter]
    exact ⟨⟨(contains_iff_mem R anchor).mp known, by simpa using second.symm⟩,
      by simpa using self.symm⟩
  have clauses :
      d.placeAfter other (Clause.without d.name
        (c.placeAfter anchor (Clause.without c.name R.clauses))) =
      c.placeAfter anchor (Clause.without c.name
        (d.placeAfter other (Clause.without d.name R.clauses))) := by
    rw [Clause.without_placeAfter distinct second.symm,
      Clause.without_placeAfter distinct.symm first.symm, Clause.without_comm d.name c.name,
      Clause.placeAfter_comm apart first second _ left]
  simp only [place, clauses]

theorem kind_step (R : Registry S) (anchor : String) (c : Clause S) :
    (R.step (.insertAfter anchor c)).kind = R.kind := by
  cases answer : R.insertAfter anchor c with
  | error e => rw [step_of_error answer]
  | ok next =>
    obtain ⟨-, -, rfl⟩ := (insertAfter_eq_ok_iff _ _ _ _).mp answer
    rw [step, afterwards_of_ok answer, insertBehind, remove]
    cases R.position c.name <;> rfl

variable {R : Registry S} (unique : R.names.Nodup)

include unique

theorem contains_step (anchor : String) {c : Clause S} {name : String} (other : c.name ≠ name) :
    (R.step (.insertAfter anchor c)).contains name = R.contains name := by
  cases answer : R.insertAfter anchor c with
  | error e => rw [step_of_error answer]
  | ok next =>
    rw [step_of_ok unique answer]
    exact contains_place R anchor other

-- An answer hangs on nothing but the kind and on whether the anchor is known.
omit unique in
theorem answer_congr {R' : Registry S} {anchor : String} (kind : R'.kind = R.kind)
    (known : R'.contains anchor = R.contains anchor) (c : Clause S) :
    R'.answer (.insertAfter anchor c) = R.answer (.insertAfter anchor c) := by
  simp only [answer, insertAfter_eq, kind, known]
  split
  · rfl
  · split <;> rfl

theorem answer_step (anchor other : String) {c d : Clause S} (first : c.name ≠ other) :
    (R.step (.insertAfter anchor c)).answer (.insertAfter other d) =
      R.answer (.insertAfter other d) :=
  answer_congr (kind_step R anchor c) (contains_step unique anchor first) d

omit unique in
theorem step_eq_self_of_answer {anchor : String} {c : Clause S} {e : RegistrationError}
    (refused : R.answer (.insertAfter anchor c) = .error e) :
    R.step (.insertAfter anchor c) = R := by
  cases answer : R.insertAfter anchor c with
  | error e => exact step_of_error answer
  | ok next =>
    rw [Registry.answer, answer] at refused
    cases refused

theorem step_eq_place_of_answer {anchor : String} {c : Clause S} {u : Unit}
    (accepted : R.answer (.insertAfter anchor c) = .ok u) :
    c.name ≠ anchor ∧ R.contains anchor = true ∧
      R.step (.insertAfter anchor c) = R.place anchor c := by
  cases answer : R.insertAfter anchor c with
  | error e =>
    rw [Registry.answer, answer] at accepted
    cases accepted
  | ok next =>
    obtain ⟨self, known, -⟩ := (insertAfter_eq_ok_iff _ _ _ _).mp answer
    exact ⟨self, known, step_of_ok unique answer⟩

theorem step_comm {c d : Clause S} {anchor other : String} (distinct : c.name ≠ d.name)
    (apart : anchor ≠ other) (first : c.name ≠ other) (second : d.name ≠ anchor) :
    (R.step (.insertAfter anchor c)).step (.insertAfter other d) =
      (R.step (.insertAfter other d)).step (.insertAfter anchor c) := by
  have laterSecond := answer_step unique anchor other (d := d) first
  have laterFirst := answer_step unique other anchor (d := c) second
  cases answerFirst : R.answer (.insertAfter anchor c) with
  | error e =>
    rw [step_eq_self_of_answer answerFirst,
      step_eq_self_of_answer (laterFirst.trans answerFirst)]
  | ok u =>
    cases answerSecond : R.answer (.insertAfter other d) with
    | error e =>
      rw [step_eq_self_of_answer answerSecond,
        step_eq_self_of_answer (laterSecond.trans answerSecond)]
    | ok v =>
      obtain ⟨self, known, placed⟩ := step_eq_place_of_answer unique answerFirst
      obtain ⟨-, -, placedSecond⟩ := step_eq_place_of_answer unique answerSecond
      obtain ⟨-, -, thenSecond⟩ := step_eq_place_of_answer (distinct_step unique _)
        (laterSecond.trans answerSecond)
      obtain ⟨-, -, thenFirst⟩ := step_eq_place_of_answer (distinct_step unique _)
        (laterFirst.trans answerFirst)
      rw [thenSecond, thenFirst, placed, placedSecond]
      exact place_comm R distinct apart first second self known

theorem insertAfter_again {next : Registry S} {anchor : String} {c d : Clause S}
    (same : d.name = c.name) (accepted : R.insertAfter anchor c = .ok next) :
    next.insertAfter anchor d = .ok (R.place anchor d) ∧
      R.insertAfter anchor d = .ok (R.place anchor d) := by
  have placed := step_of_ok unique accepted
  have still := distinct_step unique (.insertAfter anchor c)
  rw [placed] at still
  obtain ⟨other, known, rfl⟩ := (insertAfter_eq_ok_place_iff unique _ _ _).mp accepted
  constructor
  · rw [insertAfter_eq_ok_place_iff still, same, place_place R anchor same,
      contains_place R anchor other]
    exact ⟨other, known, rfl⟩
  · rw [insertAfter_eq_ok_place_iff unique, same]
    exact ⟨other, known, rfl⟩

omit unique

theorem independent_registrations_commute {S : Type} (h : History S) :
    let R := h.registry
    (∀ (anchor other : String) (c d : Clause S), c.name ≠ d.name → anchor ≠ other →
      c.name ≠ other → d.name ≠ anchor →
        let first : Call S := .insertAfter anchor c
        let second : Call S := .insertAfter other d
        R.run [first, second] = R.run [second, first] ∧
          R.answers [first, second] = [R.answer first, R.answer second] ∧
          R.answers [second, first] = [R.answer second, R.answer first]) ∧
    ∀ (anchor : String) (c d : Clause S) (next : Registry S), d.name = c.name →
      R.insertAfter anchor c = .ok next →
        ∃ before a after, a.name = anchor ∧ next.clauses = before ++ a :: c :: after ∧
          let again : Registry S := { next with clauses := before ++ a :: d :: after }
          next.insertAfter anchor d = .ok again ∧ R.insertAfter anchor d = .ok again := by
  intro R
  have unique : R.names.Nodup := h.follows.distinct
  constructor
  · intro anchor other c d distinct apart first second
    refine ⟨step_comm unique distinct apart first second, ?_, ?_⟩
    · simp only [answers, answer_step unique anchor other first]
    · simp only [answers, answer_step unique other anchor second]
  · intro anchor c d next same accepted
    obtain ⟨fromNext, fromR⟩ := insertAfter_again unique same accepted
    obtain ⟨other, known, rfl⟩ := (insertAfter_eq_ok_place_iff unique _ _ _).mp accepted
    have left : anchor ∈ Clause.names (Clause.without c.name R.clauses) := by
      rw [Clause.names_without, List.mem_filter]
      exact ⟨(contains_iff_mem R anchor).mp known, by simpa using other.symm⟩
    obtain ⟨before, a, after, split, named, absent⟩ := exists_first_named Clause.name left
    have placed (e : Clause S) (namesake : e.name = c.name) :
        R.place anchor e = { R with clauses := before ++ a :: e :: after } := by
      rw [place, namesake, split, Clause.placeAfter_append e before after absent named]
    rw [placed d same] at fromNext fromR
    rw [placed c rfl] at fromNext ⊢
    exact ⟨before, a, after, named, rfl, fromNext, fromR⟩

theorem crossing_moves_commute :
    let clause (name : String) : Clause Unit := ⟨name, fun _ => pure none⟩
    let h : History Unit :=
      ((((History.new .delete).define (clause "a")).define (clause "b")).define
        (clause "c")).define (clause "d")
    let R := h.registry
    let first : Call Unit := .insertAfter "c" (clause "b")
    let second : Call Unit := .insertAfter "a" (clause "d")
    let renewed : Clause Unit := ⟨"b", fun _ => pure (some "B")⟩
    (R.run [first, second]).names = ["a", "d", "c", "b"] ∧
      R.run [first, second] = R.run [second, first] ∧
      R.answers [second, first] = [.ok (), .ok ()] ∧
      R.insertAfter "c" (clause "b") = .ok (R.step first) ∧
      (R.step first).insertAfter "c" renewed = R.insertAfter "c" renewed := by
  intro clause h R first second renewed
  obtain ⟨commute, repeats⟩ := independent_registrations_commute h
  obtain ⟨same, -, answers⟩ :=
    commute "c" "a" (clause "b") (clause "d") (by decide) (by decide) (by decide) (by decide)
  have accepted : R.insertAfter "c" (clause "b") = .ok (R.step first) := rfl
  obtain ⟨before, a, after, -, -, again, once⟩ :=
    repeats "c" (clause "b") renewed (R.step first) rfl accepted
  exact ⟨by decide, same, answers, accepted, again.trans once.symm⟩

end Registry

end SqlClauses
