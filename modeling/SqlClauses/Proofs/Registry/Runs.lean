import SqlClauses.Proofs.Registry.History

set_option autoImplicit false

namespace SqlClauses

theorem exists_first_named {A : Type} (name : A → String) {x : String} {xs : List A}
    (known : x ∈ xs.map name) :
    ∃ before a after, xs = before ++ a :: after ∧ name a = x ∧ x ∉ before.map name := by
  obtain ⟨front, back, split, first⟩ := List.eq_append_cons_of_mem known
  obtain ⟨before, rest, rfl, rfl, tail⟩ := List.map_eq_append_iff.mp split
  obtain ⟨a, after, rfl, named, -⟩ := List.map_eq_cons_iff.mp tail
  exact ⟨before, a, after, rfl, named, first⟩

namespace Clause

variable {S : Type}

-- The ways to come to stand right behind the anchor: as a new clause, from a place in front of it,
-- or from one behind it.
inductive Moved (anchor : String) (c : Clause S) : List (Clause S) → List (Clause S) → Prop where
  | fresh (before : List (Clause S)) (a : Clause S) (after : List (Clause S)) :
    a.name = anchor → c.name ∉ names (before ++ a :: after) →
      Moved anchor c (before ++ a :: after) (before ++ a :: c :: after)
  | forward (before : List (Clause S)) (d : Clause S) (between : List (Clause S)) (a : Clause S)
      (after : List (Clause S)) :
    d.name = c.name → a.name = anchor →
      Moved anchor c (before ++ d :: (between ++ a :: after))
        (before ++ (between ++ a :: c :: after))
  | backward (before : List (Clause S)) (a : Clause S) (between : List (Clause S)) (d : Clause S)
      (after : List (Clause S)) :
    a.name = anchor → d.name = c.name →
      Moved anchor c (before ++ a :: (between ++ d :: after))
        (before ++ a :: c :: (between ++ after))

structure PlacedBehind (anchor : String) (c : Clause S) (old new : List (Clause S)) : Prop where
  split : ∃ before a after, without c.name old = before ++ a :: after ∧ a.name = anchor ∧
    new = before ++ a :: c :: after
  others : without c.name new = without c.name old
  moved : Moved anchor c old new

-- In the place of its namesake, or last if there is none.
inductive DefinedIn (c : Clause S) : List (Clause S) → List (Clause S) → Prop where
  | known (before : List (Clause S)) (d : Clause S) (after : List (Clause S)) :
    d.name = c.name → DefinedIn c (before ++ d :: after) (before ++ c :: after)
  | fresh (old : List (Clause S)) : c.name ∉ names old → DefinedIn c old (old ++ [c])

theorem without_append (name : String) (front back : List (Clause S)) :
    without name (front ++ back) = without name front ++ without name back :=
  List.filter_append ..

theorem without_without (name : String) (clauses : List (Clause S)) :
    without name (without name clauses) = without name clauses := by
  simp [without]

theorem placeAfter_append {anchor : String} {a : Clause S} (c : Clause S)
    (before after : List (Clause S)) (first : anchor ∉ names before) (named : a.name = anchor) :
    c.placeAfter anchor (before ++ a :: after) = before ++ a :: c :: after := by
  induction before with
  | nil => simp [placeAfter, named]
  | cons d rest ih =>
    simp only [names, List.map_cons, List.mem_cons, not_or] at first
    simp [placeAfter, Ne.symm first.1, ih first.2]

theorem without_split {old : List (Clause S)} {name : String} (distinct : (names old).Nodup)
    (known : name ∈ names old) :
    ∃ front d back, old = front ++ d :: back ∧ d.name = name ∧
      without name old = front ++ back := by
  obtain ⟨d, member, named⟩ := List.mem_map.mp known
  obtain ⟨front, back, rfl⟩ := List.append_of_mem member
  simp only [names, List.map_append, List.map_cons, named] at distinct
  obtain ⟨absent, -⟩ := List.nodup_cons.mp (List.nodup_middle.mp distinct)
  rw [List.mem_append, not_or] at absent
  have kept : without name (front ++ d :: back) = front ++ back := by
    rw [without_append, without_cons, if_pos named, without_of_not_mem _ _ absent.1,
      without_of_not_mem _ _ absent.2]
  exact ⟨front, d, back, rfl, named, kept⟩

theorem moved_of_split {anchor : String} {c a : Clause S} {old before after : List (Clause S)}
    (distinct : (names old).Nodup) (split : without c.name old = before ++ a :: after)
    (named : a.name = anchor) : Moved anchor c old (before ++ a :: c :: after) := by
  by_cases known : c.name ∈ names old
  · obtain ⟨front, d, back, rfl, same, kept⟩ := without_split distinct known
    rw [kept, List.append_eq_append_iff] at split
    rcases split with ⟨between, rfl, rfl⟩ | ⟨between, rfl, tail⟩
    · rw [List.append_assoc]
      exact .forward front d between a after same named
    · cases between with
      | nil =>
        rw [List.nil_append] at tail
        rw [List.append_nil, ← tail]
        exact .forward before d [] a after same named
      | cons first between =>
        obtain ⟨rfl, rfl⟩ := List.cons_eq_cons.mp tail
        rw [List.append_assoc, List.cons_append]
        exact .backward before a between d back named same
  · rw [without_of_not_mem _ _ known] at split
    rw [split] at known ⊢
    exact .fresh before a after named known

theorem placedBehind {anchor : String} {c : Clause S} {old : List (Clause S)}
    (distinct : (names old).Nodup) (other : c.name ≠ anchor) (known : anchor ∈ names old) :
    PlacedBehind anchor c old (c.placeAfter anchor (without c.name old)) := by
  have left : anchor ∈ names (without c.name old) := by
    rw [names_without, List.mem_filter]
    exact ⟨known, by simpa using Ne.symm other⟩
  obtain ⟨before, a, after, split, named, first⟩ := exists_first_named name left
  rw [split, placeAfter_append c before after first named]
  constructor
  · exact ⟨before, a, after, split, named, rfl⟩
  · have again := without_without c.name old
    rw [split, without_append, without_cons] at again
    rw [without_append, without_cons, without_cons, if_pos rfl, again, split]
  · exact moved_of_split distinct split named

theorem filter_names_place {keep : String → Bool} (anchor : String) (c : Clause S)
    (clauses : List (Clause S)) (dropped : keep c.name = false) :
    (names (c.placeAfter anchor (without c.name clauses))).filter keep =
      (names clauses).filter keep := by
  have behind (rest : List (Clause S)) :
      (names (c.placeAfter anchor rest)).filter keep = (names rest).filter keep := by
    induction rest with
    | nil => simp [placeAfter, names, dropped]
    | cons d rest ih =>
      simp only [names] at ih
      by_cases here : d.name = anchor <;>
        simp [placeAfter, here, names, dropped, List.filter_cons, ih]
  rw [behind, names_without, List.filter_filter]
  apply List.filter_congr
  intro name _
  by_cases same : name = c.name <;> simp [same, dropped]

theorem definedIn (c : Clause S) (old : List (Clause S)) : DefinedIn c old (c.define old) := by
  induction old with
  | nil => exact .fresh [] (by simp [names])
  | cons d rest ih =>
    by_cases same : d.name = c.name
    · simpa [define, same] using DefinedIn.known [] d rest same
    · rw [define, if_neg same]
      generalize c.define rest = new at ih ⊢
      cases ih with
      | known before e after namesake => exact .known (d :: before) e after namesake
      | fresh _ absent =>
        exact .fresh (d :: rest) (by simpa [names, Ne.symm same] using absent)

end Clause

namespace Registry

variable {S : Type}

inductive Call (S : Type) where
  | define (c : Clause S)
  | insertAfter (anchor : String) (c : Clause S)

def step (R : Registry S) : Call S → Registry S
  | .define c => R.define c
  | .insertAfter anchor c => R.afterwards anchor c

def run (R : Registry S) (calls : List (Call S)) : Registry S := calls.foldl step R

def placedBy (R : Registry S) : Call S → List String
  | .define _ => []
  | .insertAfter anchor c =>
    match R.insertAfter anchor c with
    | .ok _ => [c.name]
    | .error _ => []

def placed : Registry S → List (Call S) → List String
  | _, [] => []
  | R, call :: rest => R.placedBy call ++ placed (R.step call) rest

theorem step_of_error {R : Registry S} {anchor : String} {c : Clause S} {e : RegistrationError}
    (refused : R.insertAfter anchor c = .error e) : R.step (.insertAfter anchor c) = R :=
  afterwards_of_error refused

theorem step_of_ok {R next : Registry S} {anchor : String} {c : Clause S}
    (distinct : R.names.Nodup) (accepted : R.insertAfter anchor c = .ok next) :
    R.step (.insertAfter anchor c) = R.place anchor c := by
  obtain ⟨-, -, rfl⟩ := (insertAfter_eq_ok_place_iff distinct _ _ _).mp accepted
  exact afterwards_of_ok accepted

theorem distinct_step {R : Registry S} (distinct : R.names.Nodup) (call : Call S) :
    (R.step call).names.Nodup := by
  have follows : R.Follows R.kind R.names fun name => Clause.find name R.clauses :=
    ⟨rfl, distinct, R.contains_iff_mem, fun _ => rfl⟩
  cases call with
  | define c => exact (follows.define c).distinct
  | insertAfter anchor c =>
    cases answer : R.insertAfter anchor c with
    | error e =>
      rw [step_of_error answer]
      exact distinct
    | ok next =>
      rw [step_of_ok distinct answer]
      exact (follows.place anchor c).distinct

def Precedes (x y : String) (names : List String) : Prop := [x, y].Sublist names

theorem precedes_filter_iff {x y : String} {keep : String → Bool} (names : List String)
    (first : keep x = true) (second : keep y = true) :
    Precedes x y (names.filter keep) ↔ Precedes x y names := by
  constructor
  · intro kept
    exact List.Sublist.trans kept List.filter_sublist
  · intro ordered
    have kept := List.Sublist.filter keep ordered
    simpa [Precedes, first, second] using kept

-- Calls neither lose a name nor change the order of the names that they do not place.
theorem names_step_filter {R : Registry S} {keep : String → Bool} (distinct : R.names.Nodup)
    (call : Call S)
    (known : ∀ x, keep x = true → x ∈ R.names) (unplaced : ∀ x ∈ R.placedBy call, keep x = false) :
    (R.step call).names.filter keep = R.names.filter keep := by
  cases call with
  | define c =>
    rw [step, define_eq]
    change (Clause.names (c.define R.clauses)).filter keep = _
    rw [Clause.names_define]
    split
    · rfl
    · rename_i absent
      have dropped : keep c.name = false := by
        rw [← Bool.not_eq_true]
        exact fun kept => absent (known c.name kept)
      rw [List.filter_append, List.filter_cons_of_neg (by simp [dropped]), List.filter_nil,
        List.append_nil]
      rfl
  | insertAfter anchor c =>
    cases answer : R.insertAfter anchor c with
    | error e => rw [step_of_error answer]
    | ok next =>
      have dropped : keep c.name = false := unplaced c.name (by simp [placedBy, answer])
      rw [step_of_ok distinct answer]
      exact Clause.filter_names_place anchor c R.clauses dropped

theorem names_run_filter {R : Registry S} {keep : String → Bool} (distinct : R.names.Nodup)
    (calls : List (Call S))
    (known : ∀ x, keep x = true → x ∈ R.names)
    (unplaced : ∀ x ∈ R.placed calls, keep x = false) :
    (R.run calls).names.filter keep = R.names.filter keep := by
  induction calls generalizing R with
  | nil => rfl
  | cons call rest ih =>
    have here : (R.step call).names.filter keep = R.names.filter keep :=
      names_step_filter distinct call known fun x member =>
        unplaced x (List.mem_append_left _ member)
    have still (x : String) (kept : keep x = true) : x ∈ (R.step call).names := by
      have member := List.mem_filter.mpr ⟨known x kept, kept⟩
      rw [← here] at member
      exact (List.mem_filter.mp member).1
    have later := ih (distinct_step distinct call) still fun x member => unplaced x (List.mem_append_right _ member)
    exact later.trans here

theorem precedes_run_iff {R : Registry S} (distinct : R.names.Nodup) (calls : List (Call S))
    {x y : String} (first : x ∈ R.names) (second : y ∈ R.names) (unmoved : x ∉ R.placed calls)
    (still : y ∉ R.placed calls) :
    Precedes x y (R.run calls).names ↔ Precedes x y R.names := by
  let keep (name : String) : Bool := decide (name = x ∨ name = y)
  have same : (R.run calls).names.filter keep = R.names.filter keep := by
    apply names_run_filter distinct
    · intro name kept
      rcases of_decide_eq_true kept with rfl | rfl
      · exact first
      · exact second
    · intro name member
      apply decide_eq_false
      rintro (rfl | rfl)
      · exact unmoved member
      · exact still member
  have keepFirst : keep x = true := by simp [keep]
  have keepSecond : keep y = true := by simp [keep]
  rw [← precedes_filter_iff _ keepFirst keepSecond, same,
    precedes_filter_iff _ keepFirst keepSecond]

theorem clauses_stand_where_told {S : Type} (h : History S) :
    let R := h.registry
    R.names.Nodup ∧
    (∀ (anchor : String) (c : Clause S),
      match R.insertAfter anchor c with
      | .ok next =>
        c.name ≠ anchor ∧ anchor ∈ R.names ∧
          Clause.PlacedBehind anchor c R.clauses next.clauses
      | .error _ => c.name = anchor ∨ anchor ∉ R.names) ∧
    (∀ c : Clause S, Clause.DefinedIn c R.clauses (R.define c).clauses) ∧
    ∀ (calls : List (Call S)) (x y : String), x ∈ R.names → y ∈ R.names →
      x ∉ R.placed calls → y ∉ R.placed calls →
        (Precedes x y (R.run calls).names ↔ Precedes x y R.names) := by
  intro R
  have distinct : R.names.Nodup := h.follows.distinct
  have placing (anchor : String) (c : Clause S) :
      match R.insertAfter anchor c with
      | .ok next =>
        c.name ≠ anchor ∧ anchor ∈ R.names ∧
          Clause.PlacedBehind anchor c R.clauses next.clauses
      | .error _ => c.name = anchor ∨ anchor ∉ R.names := by
    cases answer : R.insertAfter anchor c with
    | ok next =>
      obtain ⟨other, contained, rfl⟩ := (insertAfter_eq_ok_place_iff distinct _ _ _).mp answer
      have known : anchor ∈ R.names := (contains_iff_mem R anchor).mp contained
      exact ⟨other, known, Clause.placedBehind distinct other known⟩
    | error e =>
      by_contra both
      obtain ⟨other, known⟩ := not_or.mp both
      have accepted := (insertAfter_eq_ok_iff R anchor c _).mpr
        ⟨other, (contains_iff_mem R anchor).mpr (not_not.mp known), rfl⟩
      rw [answer] at accepted
      cases accepted
  have defining (c : Clause S) : Clause.DefinedIn c R.clauses (R.define c).clauses := by
    rw [define_eq]
    exact Clause.definedIn c R.clauses
  exact ⟨distinct, placing, defining, fun calls _ _ first second unmoved still =>
    precedes_run_iff distinct calls first second unmoved still⟩

theorem neighbours_keep_their_order :
    let clause (name : String) : Clause Unit := ⟨name, fun _ => pure none⟩
    let h : History Unit :=
      (((History.new .delete).define (clause "a")).define (clause "b")).define (clause "c")
    let calls : List (Call Unit) :=
      [.insertAfter "c" (clause "a"), .insertAfter "missing" (clause "b"), .define (clause "b"),
        .define (clause "d")]
    "b" ∈ h.registry.names ∧ "c" ∈ h.registry.names ∧
      "b" ∉ h.registry.placed calls ∧ "c" ∉ h.registry.placed calls ∧
      (h.registry.run calls).names = ["b", "c", "a", "d"] ∧
      Precedes "b" "c" (h.registry.run calls).names := by
  intro clause h calls
  have first : "b" ∈ h.registry.names := by decide
  have second : "c" ∈ h.registry.names := by decide
  have unmoved : "b" ∉ h.registry.placed calls := by decide
  have still : "c" ∉ h.registry.placed calls := by decide
  have before : Precedes "b" "c" h.registry.names := .cons _ (.refl _)
  obtain ⟨-, -, -, ordered⟩ := clauses_stand_where_told h
  exact ⟨first, second, unmoved, still, by decide,
    (ordered calls "b" "c" first second unmoved still).mpr before⟩

end Registry

end SqlClauses
