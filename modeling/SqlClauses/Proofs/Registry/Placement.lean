import Mathlib.Data.List.InsertIdx
import Mathlib.Data.List.Nodup
import SqlClauses.Registry.Basic

set_option autoImplicit false

namespace SqlClauses

namespace Clause

variable {S T : Type}

def names (clauses : List (Clause S)) : List String :=
  clauses.map Clause.name

def define (c : Clause S) : List (Clause S) → List (Clause S)
  | [] => [c]
  | d :: rest => if d.name = c.name then c :: rest else d :: define c rest

def placeAfter (anchor : String) (c : Clause S) : List (Clause S) → List (Clause S)
  | [] => [c]
  | d :: rest => if d.name = anchor then d :: c :: rest else d :: placeAfter anchor c rest

def without (name : String) (clauses : List (Clause S)) : List (Clause S) :=
  clauses.filter fun d => d.name ≠ name

def find (name : String) : List (Clause S) → Option (Renderer S)
  | [] => none
  | c :: rest => if c.name = name then some c.renderer else find name rest

theorem names_define (c : Clause S) (clauses : List (Clause S)) :
    names (c.define clauses) =
      if c.name ∈ names clauses then names clauses else names clauses ++ [c.name] := by
  induction clauses with
  | nil => simp [define, names]
  | cons d rest ih =>
    by_cases same : d.name = c.name
    · simp [define, same, names]
    · have other : c.name ≠ d.name := fun h => same h.symm
      simp only [names] at ih
      by_cases member : c.name ∈ rest.map Clause.name <;>
        simp [define, same, other, names, ih, member]

theorem find_define (c : Clause S) (name : String) (clauses : List (Clause S)) :
    find name (c.define clauses) = if c.name = name then some c.renderer else find name clauses := by
  induction clauses with
  | nil => simp [define, find]
  | cons d rest ih =>
    by_cases same : d.name = c.name
    · by_cases asked : c.name = name
      · simp [define, same, find, asked]
      · simp [define, same, find, asked]
    · by_cases asked : c.name = name
      · have other : d.name ≠ name := fun h => same (h.trans asked.symm)
        simp [define, find, other, ih, asked]
      · simp [define, same, find, ih, asked]

theorem perm_placeAfter (anchor : String) (c : Clause S) (clauses : List (Clause S)) :
    (c.placeAfter anchor clauses).Perm (c :: clauses) := by
  induction clauses with
  | nil => rfl
  | cons d rest ih =>
    by_cases here : d.name = anchor
    · simpa [placeAfter, here] using List.Perm.swap c d rest
    · simpa [placeAfter, here] using (ih.cons d).trans (List.Perm.swap c d rest)

theorem find_placeAfter (anchor : String) (c : Clause S) (name : String)
    (clauses : List (Clause S)) (fresh : c.name ∉ names clauses) :
    find name (c.placeAfter anchor clauses) =
      if c.name = name then some c.renderer else find name clauses := by
  induction clauses with
  | nil => simp [placeAfter, find]
  | cons d rest ih =>
    simp only [names, List.map_cons, List.mem_cons, not_or] at fresh
    by_cases here : d.name = anchor
    · by_cases asked : c.name = name
      · have other : d.name ≠ name := fun h => fresh.1 (asked.trans h.symm)
        simp [placeAfter, here, find, asked, here ▸ other]
      · simp [placeAfter, here, find, asked]
    · by_cases asked : c.name = name
      · have other : d.name ≠ name := fun h => fresh.1 (asked.trans h.symm)
        simp [placeAfter, here, find, other, ih fresh.2, asked]
      · simp [placeAfter, here, find, ih fresh.2, asked]

theorem names_without (name : String) (clauses : List (Clause S)) :
    names (without name clauses) = (names clauses).filter (· ≠ name) := by
  simp [names, without, List.filter_map, Function.comp_def]

theorem without_cons (name : String) (d : Clause S) (rest : List (Clause S)) :
    without name (d :: rest) =
      if d.name = name then without name rest else d :: without name rest := by
  by_cases dropped : d.name = name <;> simp [without, dropped]

theorem find_without (gone name : String) (clauses : List (Clause S)) (other : gone ≠ name) :
    find name (without gone clauses) = find name clauses := by
  induction clauses with
  | nil => rfl
  | cons d rest ih => by_cases dropped : d.name = gone <;> simp [without_cons, dropped, find, ih, other]

theorem find_comap (view : T → S) (name : String) (clauses : List (Clause S)) :
    find name (clauses.map (Clause.comap view)) =
      (find name clauses).map fun renderer t => renderer (view t) := by
  induction clauses with
  | nil => rfl
  | cons c rest ih => by_cases same : c.name = name <;> simp [find, same, ih, comap]

-- Removal and insertion by position fail where the position lies outside the list.
def removeNamed (name : String) (clauses : List (Clause S)) : Option (List (Clause S)) :=
  match position name clauses with
  | none => some clauses
  | some i => if i < clauses.length then some (clauses.eraseIdx i) else none

def insertBehind (anchor : String) (c : Clause S) (clauses : List (Clause S)) :
    Option (List (Clause S)) :=
  match position anchor clauses with
  | none => none
  | some i => if i + 1 ≤ clauses.length then some (clauses.insertIdx (i + 1) c) else none

theorem position_cons (name : String) (d : Clause S) (rest : List (Clause S)) :
    position name (d :: rest) =
      if d.name = name then some 0 else (position name rest).map (· + 1) := by
  by_cases same : d.name = name <;> simp [position, List.findIdx?_cons, same]

theorem position_eq_none_iff (name : String) (clauses : List (Clause S)) :
    position name clauses = none ↔ name ∉ names clauses := by
  simp [position, names]

theorem define_eq (c : Clause S) (clauses : List (Clause S)) :
    c.define clauses =
      match position c.name clauses with
      | some i => clauses.modify i fun d => { d with renderer := c.renderer }
      | none => clauses ++ [c] := by
  induction clauses with
  | nil => rfl
  | cons d rest ih =>
    by_cases same : d.name = c.name
    · simp [define, position_cons, same]
    · cases found : position c.name rest <;> simp [define, position_cons, same, ih, found]

theorem without_of_not_mem (name : String) (clauses : List (Clause S))
    (absent : name ∉ names clauses) : without name clauses = clauses := by
  apply List.filter_eq_self.mpr
  intro c member
  have other : c.name ≠ name := by
    rintro rfl
    exact absent (List.mem_map_of_mem member)
  simpa using other

theorem removeNamed_eq_without (name : String) (clauses : List (Clause S))
    (distinct : (names clauses).Nodup) : removeNamed name clauses = some (without name clauses) := by
  induction clauses with
  | nil => rfl
  | cons d rest ih =>
    obtain ⟨first, others⟩ := List.nodup_cons.mp distinct
    by_cases same : d.name = name
    · have kept := without_of_not_mem name rest (same ▸ first)
      simp [removeNamed, position_cons, same, without_cons, kept]
    · have shorter := ih others
      cases found : position name rest with
      | none =>
        simp only [removeNamed, found, Option.some.injEq] at shorter
        simp [removeNamed, position_cons, same, found, without_cons, ← shorter]
      | some i =>
        simp only [removeNamed, found] at shorter
        split at shorter
        · rename_i within
          have erased := Option.some.inj shorter
          simp [removeNamed, position_cons, same, found, without_cons, ← erased, within]
        · cases shorter

theorem insertBehind_eq_placeAfter (anchor : String) (c : Clause S) (clauses : List (Clause S))
    (known : anchor ∈ names clauses) :
    insertBehind anchor c clauses = some (c.placeAfter anchor clauses) := by
  induction clauses with
  | nil => simp [names] at known
  | cons d rest ih =>
    by_cases here : d.name = anchor
    · simp [insertBehind, position_cons, here, placeAfter]
    · have later : anchor ∈ names rest := by
        simp only [names, List.map_cons, List.mem_cons] at known
        exact known.resolve_left fun h => here h.symm
      have shorter := ih later
      cases found : position anchor rest with
      | none => exact absurd later ((position_eq_none_iff anchor rest).mp found)
      | some i =>
        simp only [insertBehind, found] at shorter
        split at shorter
        · rename_i within
          have inserted := Option.some.inj shorter
          simp [insertBehind, position_cons, here, found, placeAfter, ← inserted, within]
        · cases shorter

end Clause

namespace Registry

variable {S : Type}

-- The effect of a placing, told by names instead of positions.
def place (R : Registry S) (anchor : String) (c : Clause S) : Registry S :=
  { R with clauses := c.placeAfter anchor (Clause.without c.name R.clauses) }

theorem contains_iff_mem (R : Registry S) (name : String) :
    R.contains name = true ↔ name ∈ Clause.names R.clauses := by
  rw [contains, Option.isSome_iff_ne_none, position, Ne, Clause.position_eq_none_iff, not_not]

theorem define_eq (R : Registry S) (c : Clause S) :
    R.define c = { R with clauses := c.define R.clauses } := by
  rw [Clause.define_eq, define, position]
  cases Clause.position c.name R.clauses <;> rfl

theorem remove_of_not_mem (R : Registry S) (name : String)
    (absent : name ∉ Clause.names R.clauses) : R.remove name = R := by
  rw [remove, position, (Clause.position_eq_none_iff name R.clauses).mpr absent]

theorem remove_eq_without (R : Registry S) (name : String)
    (distinct : (Clause.names R.clauses).Nodup) :
    R.remove name = { R with clauses := Clause.without name R.clauses } := by
  have removed := Clause.removeNamed_eq_without name R.clauses distinct
  unfold Clause.removeNamed at removed
  unfold remove position
  cases found : Clause.position name R.clauses with
  | none =>
    rw [found] at removed
    rw [← Option.some.inj removed]
  | some i =>
    simp only [found] at removed
    split at removed
    · rw [← Option.some.inj removed]
    · cases removed

theorem insertBehind_eq_placeAfter (R : Registry S) (anchor : String) (c : Clause S)
    (known : anchor ∈ Clause.names R.clauses) :
    R.insertBehind anchor c = { R with clauses := c.placeAfter anchor R.clauses } := by
  have inserted := Clause.insertBehind_eq_placeAfter anchor c R.clauses known
  unfold Clause.insertBehind at inserted
  unfold insertBehind position
  cases found : Clause.position anchor R.clauses with
  | none => simp [found] at inserted
  | some i =>
    simp only [found] at inserted
    split at inserted
    · simp [← Option.some.inj inserted]
    · cases inserted

theorem register_eq (R : Registry S) (anchor : String) (c : Clause S) :
    register anchor c R =
      if c.name = anchor then .error (.selfAnchor R.kind c.name) R
      else if R.contains anchor then .ok () ((R.remove c.name).insertBehind anchor c)
      else .error (.unknownAnchor R.kind c.name anchor) R := by
  have started : ∀ f : Registry S → EStateM RegistrationError (Registry S) Unit,
      (get >>= f) R = f R R := fun _ => rfl
  rw [register, started]
  by_cases self : c.name = anchor
  · simp only [self, if_true]
    rfl
  · cases known : R.contains anchor with
    | true =>
      simp only [self, if_false, Bool.not_true, Bool.false_eq_true, if_true]
      rfl
    | false =>
      simp only [self, if_false, Bool.not_false, Bool.false_eq_true, if_true]
      rfl

theorem insertAfter_eq (R : Registry S) (anchor : String) (c : Clause S) :
    R.insertAfter anchor c =
      if c.name = anchor then .error (.selfAnchor R.kind c.name)
      else if R.contains anchor then .ok ((R.remove c.name).insertBehind anchor c)
      else .error (.unknownAnchor R.kind c.name anchor) := by
  rw [insertAfter, register_eq]
  by_cases self : c.name = anchor
  · simp [self]
  · by_cases known : R.contains anchor = true <;> simp [self, known]

theorem insertAfter_eq_ok_iff (R : Registry S) (anchor : String) (c : Clause S)
    (next : Registry S) :
    R.insertAfter anchor c = .ok next ↔
      c.name ≠ anchor ∧ R.contains anchor = true ∧
        next = (R.remove c.name).insertBehind anchor c := by
  rw [insertAfter_eq]
  split
  · rename_i same
    simp [same]
  · rename_i other
    split
    · rename_i known
      simp [other, known, eq_comm]
    · rename_i unknown
      simp [unknown]

theorem afterwards_of_ok {R next : Registry S} {anchor : String} {c : Clause S}
    (accepted : R.insertAfter anchor c = .ok next) : R.afterwards anchor c = next := by
  obtain ⟨other, known, rfl⟩ := (insertAfter_eq_ok_iff R anchor c next).mp accepted
  simp [afterwards, register_eq, other, known]

-- Both checks come before the first change.
theorem afterwards_of_error {R : Registry S} {anchor : String} {c : Clause S}
    {e : RegistrationError} (refused : R.insertAfter anchor c = .error e) :
    R.afterwards anchor c = R := by
  rw [afterwards, register_eq]
  by_cases self : c.name = anchor
  · simp [self]
  · by_cases known : R.contains anchor = true
    · rw [insertAfter_eq, if_neg self, if_pos known] at refused
      cases refused
    · simp [self, known]

theorem mem_remove {R : Registry S} {name : String} {d : Clause S}
    (member : d ∈ (R.remove name).clauses) : d ∈ R.clauses := by
  unfold remove at member
  split at member
  · exact List.mem_of_mem_eraseIdx member
  · exact member

theorem mem_afterwards {R : Registry S} {anchor : String} {c d : Clause S}
    (member : d ∈ (R.afterwards anchor c).clauses) : d = c ∨ d ∈ R.clauses := by
  cases answer : R.insertAfter anchor c with
  | error e =>
    rw [afterwards_of_error answer] at member
    exact .inr member
  | ok next =>
    obtain ⟨-, -, rfl⟩ := (insertAfter_eq_ok_iff _ _ _ _).mp answer
    rw [afterwards_of_ok answer] at member
    exact (List.eq_or_mem_of_mem_insertIdx member).imp_right mem_remove

theorem moved_eq_place {R : Registry S} {anchor : String} {c : Clause S}
    (distinct : R.names.Nodup) (other : c.name ≠ anchor) (known : R.contains anchor = true) :
    (R.remove c.name).insertBehind anchor c = R.place anchor c := by
  have left : anchor ∈ Clause.names (Clause.without c.name R.clauses) := by
    rw [Clause.names_without, List.mem_filter]
    exact ⟨(contains_iff_mem R anchor).mp known, by simpa using Ne.symm other⟩
  rw [remove_eq_without R c.name distinct, insertBehind_eq_placeAfter _ _ _ left]
  rfl

theorem insertAfter_eq_ok_place_iff {R : Registry S} (distinct : R.names.Nodup) (anchor : String)
    (c : Clause S) (next : Registry S) :
    R.insertAfter anchor c = .ok next ↔
      c.name ≠ anchor ∧ R.contains anchor = true ∧ next = R.place anchor c := by
  rw [insertAfter_eq_ok_iff]
  constructor
  · rintro ⟨other, known, rfl⟩
    exact ⟨other, known, moved_eq_place distinct other known⟩
  · rintro ⟨other, known, rfl⟩
    exact ⟨other, known, (moved_eq_place distinct other known).symm⟩

end Registry

end SqlClauses
