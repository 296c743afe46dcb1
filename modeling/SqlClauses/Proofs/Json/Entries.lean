import Mathlib.Data.List.Nodup
import Mathlib.Logic.Function.Basic
import SqlClauses.Json.Basic

set_option autoImplicit false

namespace SqlClauses.Json

variable {κ ν : Type}

structure Traverses (pairs : List (κ × ν)) (m : κ → Option ν) : Prop where
  once : (pairs.map Prod.fst).Nodup
  entries : ∀ key value, (key, value) ∈ pairs ↔ m key = some value

theorem Traverses.perm {pairs others : List (κ × ν)} {m : κ → Option ν}
    (first : Traverses pairs m) (second : Traverses others m) : pairs.Perm others := by
  refine (List.perm_ext_iff_of_nodup first.once.of_map second.once.of_map).mpr ?_
  rintro ⟨key, value⟩
  rw [first.entries, second.entries]

variable [DecidableEq κ]

def only (key : κ) (value : ν) : κ → Option ν :=
  Function.update (fun _ => none) key (some value)

def gatheredInto (m : κ → Option ν) (entries : List (κ × ν)) : κ → Option ν :=
  entries.foldl (fun m entry => Function.update m entry.1 (some entry.2)) m

def gathered (entries : List (κ × ν)) : κ → Option ν := gatheredInto (fun _ => none) entries

theorem only_eq_some_iff (key other : κ) (value found : ν) :
    only key value other = some found ↔ other = key ∧ found = value := by
  by_cases same : other = key
  · subst same
    simp [only, eq_comm]
  · simp [only, same]

theorem traverses_only (key : κ) (value : ν) : Traverses [(key, value)] (only key value) where
  once := List.nodup_singleton key
  entries other found := by simp [only_eq_some_iff]

theorem Traverses.eq_singleton_iff {pairs : List (κ × ν)} {m : κ → Option ν}
    (traverses : Traverses pairs m) (key : κ) (value : ν) :
    pairs = [(key, value)] ↔ m = only key value := by
  constructor
  · rintro rfl
    funext other
    refine Option.ext fun found => ?_
    rw [← traverses.entries, only_eq_some_iff]
    simp
  · rintro rfl
    exact List.perm_singleton.mp (traverses.perm (traverses_only key value))

theorem keys_lastOfEqual (entries : List (κ × ν)) (key : κ) :
    key ∈ (lastOfEqual entries).map Prod.fst ↔ key ∈ entries.map Prod.fst := by
  induction entries with
  | nil => rfl
  | cons entry rest ih =>
    rw [lastOfEqual]
    split
    case isTrue later =>
      rw [ih, List.map_cons, List.mem_cons]
      exact ⟨.inr, fun member => member.elim (fun same => same ▸ later) id⟩
    case isFalse => simp only [List.map_cons, List.mem_cons, ih]

theorem nodup_lastOfEqual (entries : List (κ × ν)) :
    ((lastOfEqual entries).map Prod.fst).Nodup := by
  induction entries with
  | nil => exact List.nodup_nil
  | cons entry rest ih =>
    rw [lastOfEqual]
    split
    case isTrue => exact ih
    case isFalse absent =>
      rw [List.map_cons, List.nodup_cons, keys_lastOfEqual]
      exact ⟨absent, ih⟩

theorem gatheredInto_eq_some_iff (entries : List (κ × ν)) (m : κ → Option ν) (key : κ) (value : ν) :
    gatheredInto m entries key = some value ↔
      (key, value) ∈ lastOfEqual entries ∨
        key ∉ entries.map Prod.fst ∧ m key = some value := by
  induction entries generalizing m with
  | nil => simp [gatheredInto, lastOfEqual]
  | cons entry rest ih =>
    obtain ⟨first, held⟩ := entry
    have step : gatheredInto m ((first, held) :: rest) =
        gatheredInto (Function.update m first (some held)) rest := rfl
    rw [step, ih, lastOfEqual]
    by_cases same : key = first
    · subst same
      -- A later entry of the key takes the place of this one.
      by_cases later : key ∈ rest.map Prod.fst
      · simp [later]
      · have gone : (key, value) ∉ lastOfEqual rest := fun member =>
          later ((keys_lastOfEqual rest key).mp (List.mem_map_of_mem member))
        simp [later, gone, eq_comm]
    · split <;> simp [same]

theorem traverses_lastOfEqual (entries : List (κ × ν)) :
    Traverses (lastOfEqual entries) (gathered entries) where
  once := nodup_lastOfEqual entries
  entries key value := by simp [gathered, gatheredInto_eq_some_iff]

theorem lastOfEqual_map {κ' ν' : Type} [DecidableEq κ'] {f : κ → κ'} (g : ν → ν')
    (injective : Function.Injective f) (entries : List (κ × ν)) :
    lastOfEqual (entries.map (Prod.map f g)) = (lastOfEqual entries).map (Prod.map f g) := by
  induction entries with
  | nil => rfl
  | cons entry rest ih =>
    obtain ⟨key, value⟩ := entry
    have keys : f key ∈ (rest.map (Prod.map f g)).map Prod.fst ↔ key ∈ rest.map Prod.fst := by
      rw [List.map_map, show Prod.fst ∘ Prod.map f g = f ∘ Prod.fst from rfl, ← List.map_map,
        List.mem_map_of_injective injective]
    rw [List.map_cons, Prod.map_apply, lastOfEqual, lastOfEqual, ih]
    by_cases later : key ∈ rest.map Prod.fst
    · rw [if_pos later, if_pos (keys.mpr later)]
    · rw [if_neg later, if_neg fun member => later (keys.mp member)]
      rfl

end SqlClauses.Json
