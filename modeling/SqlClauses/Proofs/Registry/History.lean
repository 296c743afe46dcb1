import SqlClauses.Proofs.Registry.Placement

set_option autoImplicit false

namespace SqlClauses

-- Calls on a registry, the latest one outermost. A copy starts a history of its own with what was
-- done to the source.
inductive Registry.History : Type → Type 1 where
  | new {S : Type} (kind : Kind) : History S
  | define {S : Type} (earlier : History S) (c : Clause S) : History S
  | insertAfter {S : Type} (earlier : History S) (anchor : String) (c : Clause S) : History S
  | lift {S T : Type} (earlier : History S) (view : T → S) : History T
  | copy {S : Type} (earlier : History S) : History S

namespace Registry

namespace History

def kind : {S : Type} → History S → Kind
  | _, .new kind => kind
  | _, .define earlier _ => earlier.kind
  | _, .insertAfter earlier _ _ => earlier.kind
  | _, .lift earlier _ => earlier.kind
  | _, .copy earlier => earlier.kind

def registry : {S : Type} → History S → Registry S
  | _, .new kind => { kind := kind }
  | _, .define earlier c => earlier.registry.define c
  | _, .insertAfter earlier anchor c => earlier.registry.afterwards anchor c
  | _, .lift earlier view => earlier.registry.comap view
  | _, .copy earlier => earlier.registry

def subjects : {S : Type} → History S → List String
  | _, .new _ => []
  | _, .define earlier c => c.name :: earlier.subjects
  | _, .insertAfter earlier anchor c =>
    match earlier.registry.insertAfter anchor c with
    | .ok _ => c.name :: earlier.subjects
    | .error _ => earlier.subjects
  | _, .lift earlier _ => earlier.subjects
  | _, .copy earlier => earlier.subjects

def given : {S : Type} → History S → String → Option (Renderer S)
  | _, .new _, _ => none
  | _, .define earlier c, name => if c.name = name then some c.renderer else earlier.given name
  | _, .insertAfter earlier anchor c, name =>
    match earlier.registry.insertAfter anchor c with
    | .ok _ => if c.name = name then some c.renderer else earlier.given name
    | .error _ => earlier.given name
  | _, .lift earlier view, name => (earlier.given name).map fun renderer t => renderer (view t)
  | _, .copy earlier, name => earlier.given name

end History

structure Follows {S : Type} (R : Registry S) (kind : Kind) (subjects : List String)
    (given : String → Option (Renderer S)) : Prop where
  kind_eq : R.kind = kind
  distinct : R.names.Nodup
  contains_iff : ∀ name, R.contains name = true ↔ name ∈ subjects
  find_eq : ∀ name, Clause.find name R.clauses = given name

variable {S T : Type} {R : Registry S} {kind : Kind} {subjects : List String}
  {given : String → Option (Renderer S)}

theorem Follows.new (kind : Kind) :
    Follows ({ kind := kind } : Registry S) kind [] fun _ => none where
  kind_eq := rfl
  distinct := List.nodup_nil
  contains_iff name := by simp [contains_iff_mem, Clause.names]
  find_eq _ := rfl

theorem Follows.define (follows : R.Follows kind subjects given) (c : Clause S) :
    (R.define c).Follows kind (c.name :: subjects)
      fun name => if c.name = name then some c.renderer else given name where
  kind_eq := by
    rw [define_eq]
    exact follows.kind_eq
  distinct := by
    rw [define_eq]
    change (Clause.names (c.define R.clauses)).Nodup
    rw [Clause.names_define]
    split
    · exact follows.distinct
    · rename_i fresh
      exact List.nodup_append.mpr ⟨follows.distinct, List.nodup_singleton _, by
        rintro a old b new rfl
        exact fresh (List.mem_singleton.mp new ▸ old)⟩
  contains_iff name := by
    have before := follows.contains_iff name
    rw [contains_iff_mem] at before ⊢
    rw [define_eq, Clause.names_define, List.mem_cons, ← before]
    split
    · rename_i known
      exact ⟨.inr, fun h => h.elim (fun same => same ▸ known) id⟩
    · simp [or_comm]
  find_eq name := by
    rw [define_eq, Clause.find_define, follows.find_eq]

theorem Follows.place (follows : R.Follows kind subjects given) (anchor : String) (c : Clause S) :
    (R.place anchor c).Follows kind (c.name :: subjects)
      fun name => if c.name = name then some c.renderer else given name := by
  have fresh : c.name ∉ Clause.names (Clause.without c.name R.clauses) := by
    simp [Clause.names_without]
  have moved := (Clause.perm_placeAfter anchor c (Clause.without c.name R.clauses)).map Clause.name
  constructor
  · exact follows.kind_eq
  · apply moved.nodup_iff.mpr
    refine List.nodup_cons.mpr ⟨fresh, ?_⟩
    change (Clause.names (Clause.without c.name R.clauses)).Nodup
    rw [Clause.names_without]
    exact follows.distinct.filter _
  · intro name
    have before := follows.contains_iff name
    rw [contains_iff_mem] at before ⊢
    have member : name ∈ Clause.names (R.place anchor c).clauses ↔
        name ∈ c.name :: Clause.names (Clause.without c.name R.clauses) := moved.mem_iff
    rw [member, List.mem_cons, List.mem_cons, Clause.names_without, List.mem_filter, ← before]
    by_cases same : name = c.name <;> simp [same]
  · intro name
    change Clause.find name (c.placeAfter anchor (Clause.without c.name R.clauses)) = _
    rw [Clause.find_placeAfter anchor c name _ fresh]
    split
    · rfl
    · rename_i other
      rw [Clause.find_without _ _ _ other, follows.find_eq]

theorem Follows.comap (follows : R.Follows kind subjects given) (view : T → S) :
    (R.comap view).Follows kind subjects
      fun name => (given name).map fun renderer t => renderer (view t) where
  kind_eq := follows.kind_eq
  distinct := by
    rw [names_comap]
    exact follows.distinct
  contains_iff name := by
    rw [contains_iff_mem, ← follows.contains_iff name, contains_iff_mem]
    exact iff_of_eq (congrArg (name ∈ ·) (names_comap view R))
  find_eq name := by
    change Clause.find name (R.clauses.map (Clause.comap view)) = _
    rw [Clause.find_comap, follows.find_eq]

theorem History.follows {S : Type} (h : History S) :
    h.registry.Follows h.kind h.subjects h.given := by
  induction h with
  | new kind => exact Follows.new kind
  | define earlier c ih => exact ih.define c
  | insertAfter earlier anchor c ih =>
    cases answer : earlier.registry.insertAfter anchor c with
    | error e =>
      simpa [registry, subjects, History.given, History.kind, answer, afterwards_of_error answer]
        using ih
    | ok next =>
      obtain ⟨-, -, rfl⟩ := (insertAfter_eq_ok_place_iff ih.distinct _ _ _).mp answer
      simpa [registry, subjects, History.given, History.kind, answer, afterwards_of_ok answer]
        using ih.place anchor c
  | lift earlier view ih => exact ih.comap view
  | copy earlier ih => exact ih

theorem registry_follows_its_history {S : Type} (h : History S) :
    h.registry.Follows h.kind h.subjects h.given ∧
    ∀ (anchor : String) (c : Clause S),
      match h.registry.insertAfter anchor c with
      | .ok next =>
        c.name ≠ anchor ∧ anchor ∈ h.subjects ∧ (h.insertAfter anchor c).registry = next ∧
          (Clause.removeNamed c.name h.registry.clauses).bind (Clause.insertBehind anchor c) =
            some next.clauses
      | .error e =>
        e = (if c.name = anchor then .selfAnchor h.kind c.name
            else .unknownAnchor h.kind c.name anchor) ∧
          (c.name = anchor ∨ anchor ∉ h.subjects) ∧
          (h.insertAfter anchor c).registry = h.registry := by
  have follows := h.follows
  refine ⟨follows, fun anchor c => ?_⟩
  cases answer : h.registry.insertAfter anchor c with
  | ok next =>
    obtain ⟨other, known, rfl⟩ :=
      (insertAfter_eq_ok_place_iff follows.distinct _ _ _).mp answer
    refine ⟨other, (follows.contains_iff anchor).mp known, afterwards_of_ok answer, ?_⟩
    rw [Clause.removeNamed_eq_without _ _ follows.distinct, Option.bind_some]
    -- The anchor is still there once the old clause is gone, since the names differ.
    have left : anchor ∈ Clause.names (Clause.without c.name h.registry.clauses) := by
      rw [Clause.names_without, List.mem_filter]
      exact ⟨(contains_iff_mem _ _).mp known, by simpa using Ne.symm other⟩
    exact Clause.insertBehind_eq_placeAfter anchor c _ left
  | error e =>
    refine ⟨?_, ?_, afterwards_of_error answer⟩
    · rw [insertAfter_eq, follows.kind_eq] at answer
      split at answer
      · rename_i same
        simpa [same] using (Except.error.inj answer).symm
      · rename_i other
        split at answer
        · cases answer
        · simpa [other] using (Except.error.inj answer).symm
    · by_contra both
      obtain ⟨other, known⟩ := not_or.mp both
      have accepted := (insertAfter_eq_ok_iff h.registry anchor c _).mpr
        ⟨other, (follows.contains_iff anchor).mpr (not_not.mp known), rfl⟩
      rw [answer] at accepted
      cases accepted

end Registry

end SqlClauses
