import SqlClauses.Proofs.Reference.Named
import SqlClauses.Proofs.Upsert.Inputs

set_option autoImplicit false

namespace SqlClauses

open Json

theorem filterMap_filter_eq_iff {A B : Type} (keep : A → Bool) (f : A → Option B) (xs : List A) :
    (xs.filter keep).filterMap f = xs.filterMap f ↔ ∀ x ∈ xs, f x ≠ none → keep x = true := by
  induction xs with
  | nil => simp
  | cons x xs ih =>
    rw [List.forall_mem_cons, ← ih]
    cases kept : keep x with
    | true => cases found : f x <;> simp [kept, found]
    | false =>
      cases found : f x with
      | none => simp [kept, found]
      | some y =>
        -- The shorter list has no item for this one.
        have shorter := ((List.filter_sublist (p := keep) (l := xs)).filterMap f).length_le
        refine iff_of_false (fun same => ?_) (fun all => nomatch all.1 nofun)
        have lengths := congrArg List.length same
        simp [kept, found] at lengths
        omega

namespace UpdateColumn

structure Pair where
  target : String
  expr : String

def Pair.text (pair : Pair) : String := pair.target ++ " = " ++ pair.expr

def Pair.Full (pair : Pair) : Prop := pair.target ≠ "" ∧ pair.expr ≠ ""

def pair (config : Config) : UpdateColumn → Option Pair
  | .values column =>
    if column = "" then none
    else some ⟨config.column column, "VALUES(" ++ config.column column ++ ")"⟩
  | .assign column expr => some ⟨config.column column, expr⟩
  | .skip => none

def Usable : UpdateColumn → Prop
  | .values column => column ≠ ""
  | .assign column expr => column ≠ "" ∧ expr ≠ ""
  | .skip => False

instance : DecidablePred Usable
  | .values column => inferInstanceAs (Decidable (column ≠ ""))
  | .assign column expr => inferInstanceAs (Decidable (column ≠ "" ∧ expr ≠ ""))
  | .skip => inferInstanceAs (Decidable False)

def Malformed : UpdateColumn → Prop
  | .assign column expr => column = "" ∨ expr = ""
  | .values _ => False
  | .skip => False

theorem text_eq_map_pair (config : Config) (entry : UpdateColumn) :
    entry.text config = (entry.pair config).map Pair.text := by
  cases entry with
  | values column =>
    by_cases unnamed : column = ""
    · simp [pair, unnamed]
    · have joined : " = VALUES(" = " = " ++ "VALUES(" := rfl
      simp only [text_values, pair, if_neg unnamed, Option.map_some, Pair.text]
      rw [joined]
      simp only [String.append_assoc]
  | assign column expr => simp [pair, Pair.text]
  | skip => rfl

theorem filterMap_text (config : Config) (entries : List UpdateColumn) :
    entries.filterMap (text config) = (entries.filterMap (pair config)).map Pair.text := by
  rw [List.map_filterMap]
  exact congrArg (entries.filterMap ·) (funext (text_eq_map_pair config))

theorem usable_iff_not_malformed {config : Config} {entry : UpdateColumn}
    (written : entry.text config ≠ none) : entry.Usable ↔ ¬ entry.Malformed := by
  cases entry with
  | values column =>
    refine iff_of_true (fun unnamed => written ?_) id
    simp [unnamed]
  | assign column expr => exact not_or.symm
  | skip => exact absurd rfl written

theorem text_of_malformed (config : Config) {entry : UpdateColumn}
    (malformed : entry.Malformed) : entry.text config ≠ none := by
  cases entry with
  | assign column expr => simp
  | values _ | skip => exact malformed.elim

theorem full_pair_iff {config : Config} {entry : UpdateColumn} {assigned : Pair}
    (made : entry.pair config = some assigned) : assigned.Full ↔ ¬ entry.Malformed := by
  have named (name : String) := Reference.column_eq_empty_iff config.quote name
  cases entry with
  | values column =>
    by_cases unnamed : column = ""
    · simp [pair, unnamed] at made
    · simp only [pair, if_neg unnamed, Option.some.injEq] at made
      subst made
      refine iff_of_true ⟨mt (named column).mp unnamed, ?_⟩ id
      simp [String.append_eq_empty_iff]
  | assign column expr =>
    obtain rfl := Option.some.inj made
    rw [Pair.Full, Malformed, not_or]
    exact and_congr_left fun _ => not_congr (named column)
  | skip => cases made

theorem full_pairs_iff (config : Config) (entries : List UpdateColumn) :
    (∀ assigned ∈ entries.filterMap (pair config), assigned.Full) ↔
      ∀ entry ∈ entries, ¬ entry.Malformed := by
  constructor
  · intro full entry listed malformed
    have written := text_of_malformed config malformed
    rw [text_eq_map_pair, ne_eq, Option.map_eq_none_iff] at written
    obtain ⟨assigned, made⟩ := Option.ne_none_iff_exists'.mp written
    exact (full_pair_iff made).mp (full assigned (List.mem_filterMap.mpr ⟨entry, listed, made⟩))
      malformed
  · intro formed assigned member
    obtain ⟨entry, listed, made⟩ := List.mem_filterMap.mp member
    exact (full_pair_iff made).mpr (formed entry listed)

theorem usable_texts_iff (config : Config) (entries : List UpdateColumn) :
    (entries.filter Usable).filterMap (text config) = entries.filterMap (text config) ↔
      ∀ entry ∈ entries, ¬ entry.Malformed := by
  rw [filterMap_filter_eq_iff]
  refine forall₂_congr fun entry _ => ⟨fun kept malformed => ?_, fun formed written => ?_⟩
  · have written := text_of_malformed config malformed
    exact (usable_iff_not_malformed written).mp (of_decide_eq_true (kept written)) malformed
  · exact decide_eq_true ((usable_iff_not_malformed written).mpr formed)

theorem malformed_ofPairs_iff (pairs : List (String × String)) :
    (ofPairs pairs).Malformed ↔
      ∃ column expr, pairs = [(column, expr)] ∧ (column = "" ∨ expr = "") := by
  by_cases single : ∃ column expr, pairs = [(column, expr)]
  · obtain ⟨column, expr, rfl⟩ := single
    simp [ofPairs, Malformed]
  · rw [ofPairs_of_ne_singleton (by simpa using single)]
    exact iff_of_false id fun ⟨column, expr, same, _⟩ => single ⟨column, expr, same⟩

theorem malformed_ofJson_iff (item : Json) :
    (ofJson item).Malformed ↔ ∃ members key value column expr,
      item = .object members ∧ gathered members = only key value ∧
        pairOfJson (key, value) = some (column, expr) ∧ (column = "" ∨ expr = "") := by
  constructor
  · intro malformed
    cases item with
    | null | bool _ | number _ | array _ => exact malformed.elim
    | string name => cases name <;> exact malformed.elim
    | object members =>
      by_cases single : ∃ key value, gathered members = only key value
      · obtain ⟨key, value, single⟩ := single
        rw [ofJson_of_only single, malformed_ofPairs_iff] at malformed
        obtain ⟨column, expr, one, empty⟩ := malformed
        exact ⟨members, key, value, column, expr, rfl, single, by simpa using one, empty⟩
      · rw [ofJson_of_ne_only (by simpa using single)] at malformed
        exact malformed.elim
  · rintro ⟨members, key, value, column, expr, rfl, single, pair, empty⟩
    rw [ofJson_of_only single, pair]
    exact empty

end UpdateColumn

namespace Clause

theorem updatesText_of_ne_nil {texts : List String} (some : texts ≠ []) :
    updatesText texts = .some ("ON DUPLICATE KEY UPDATE " ++ ", ".intercalate texts) := by
  cases texts with
  | nil => exact absurd rfl some
  | cons text rest => rfl

theorem updatesText_eq_iff {short long : List String} (sub : short.Sublist long) :
    updatesText short = updatesText long ↔ short = long := by
  refine ⟨fun same => ?_, congrArg updatesText⟩
  by_cases empty : short = []
  · have absent := same.symm.trans ((updatesText_eq_none_iff short).mpr empty)
    rw [empty, (updatesText_eq_none_iff long).mp absent]
  · have filled : long ≠ [] := fun none => empty (List.sublist_nil.mp (none ▸ sub))
    rw [updatesText_of_ne_nil empty, updatesText_of_ne_nil filled, Option.some.injEq,
      String.append_right_inj] at same
    exact eq_of_sublist_of_intercalate sub empty same

end Clause

namespace UpdateColumn

-- The clause lists what the entries assign. All that it lists is full, and it is the clause of the
-- usable entries alone, exactly if no entry is malformed.
structure ListedBy (config : Config) (entries : List UpdateColumn) (clause : Option String) :
    Prop where
  written : clause = Clause.updatesText ((entries.filterMap (pair config)).map Pair.text)
  full : (∀ assigned ∈ entries.filterMap (pair config), assigned.Full) ↔
    ∀ entry ∈ entries, ¬ entry.Malformed
  omitted : clause = Clause.updatesText ((entries.filter Usable).filterMap (text config)) ↔
    ∀ entry ∈ entries, ¬ entry.Malformed
  formed : (∀ entry ∈ entries, ¬ entry.Malformed) → clause = none ∨
    ∃ pairs : List Pair, pairs ≠ [] ∧ (∀ assigned ∈ pairs, assigned.Full) ∧
      clause = some ("ON DUPLICATE KEY UPDATE " ++ ", ".intercalate (pairs.map Pair.text))

theorem listedBy_updatesText (config : Config) (entries : List UpdateColumn) :
    ListedBy config entries (Clause.updatesText (entries.filterMap (text config))) where
  written := by rw [filterMap_text]
  full := full_pairs_iff config entries
  omitted := by
    have shorter : ((entries.filter Usable).filterMap (text config)).Sublist
        (entries.filterMap (text config)) := List.filter_sublist.filterMap _
    rw [eq_comm, Clause.updatesText_eq_iff shorter, usable_texts_iff]
  formed all := by
    rw [filterMap_text]
    by_cases nothing : entries.filterMap (pair config) = []
    · left
      rw [nothing]
      rfl
    · right
      exact ⟨_, nothing, (full_pairs_iff config entries).mpr all,
        Clause.updatesText_of_ne_nil (by simpa using nothing)⟩

end UpdateColumn

namespace Mysql

open UpdateColumn

theorem onDuplicate_eq (d : Draft .insert) (cx : Context) :
    (onDuplicate d cx).1 =
      Clause.updatesText ((d.extra.updates.getD []).filterMap (UpdateColumn.text cx.config)) := by
  rw [onDuplicate_updates]
  cases d.extra.updates <;> rfl

theorem upsert_lists_usable_entries_iff (d : Draft .insert) (cx : Context) :
    (∀ entries : List UpdateColumn,
      ListedBy cx.config entries (onDuplicate (d.edit (.extra (.updates entries))) cx).1) ∧
    (∀ json : Json,
      ListedBy cx.config ((listOfJson json).getD [])
        (onDuplicate (d.edit (.extra (.updatesJson json))) cx).1) ∧
    (∀ pairs : List (String × String), (ofPairs pairs).Malformed ↔
      ∃ column expr, pairs = [(column, expr)] ∧ (column = "" ∨ expr = "")) ∧
    ∀ item : Json, (ofJson item).Malformed ↔ ∃ members key value column expr,
      item = .object members ∧ gathered members = only key value ∧
        pairOfJson (key, value) = some (column, expr) ∧ (column = "" ∨ expr = "") := by
  refine ⟨fun entries => ?_, fun json => ?_, malformed_ofPairs_iff, malformed_ofJson_iff⟩
  · rw [onDuplicate_eq]
    exact listedBy_updatesText cx.config entries
  · rw [onDuplicate_eq]
    exact listedBy_updatesText cx.config _

theorem usable_entries_stay :
    let d : Draft .insert := ⟨{ table := "t" }, {}⟩
    let cx := Context.inline Dialect.mysql.config
    let entries : List UpdateColumn := [.values "", .values "by", .skip, .assign "n" "n + 1"]
    (∀ entry ∈ entries, ¬ entry.Malformed) ∧
      (onDuplicate (d.edit (.extra (.updates entries))) cx).1 =
        Clause.updatesText ([.values "by", .assign "n" "n + 1"].filterMap (text cx.config)) := by
  intro d cx entries
  have formed : ∀ entry ∈ entries, ¬ entry.Malformed := by simp [entries, Malformed]
  exact ⟨formed, ((upsert_lists_usable_entries_iff d cx).1 entries).omitted.mpr formed⟩

-- The first assignment has no column.
theorem unnamed_assignment_is_written :
    let d : Draft .insert := ⟨{ table := "t" }, {}⟩
    let cx := Context.inline Dialect.mysql.config
    let entries : List UpdateColumn := [.assign "" "1", .values "a"]
    (onDuplicate (d.edit (.extra (.updates entries))) cx).1 =
        some "ON DUPLICATE KEY UPDATE  = 1, a = VALUES(a)" ∧
      Clause.updatesText ((entries.filter Usable).filterMap (text cx.config)) =
        some "ON DUPLICATE KEY UPDATE a = VALUES(a)" ∧
      (onDuplicate (d.edit (.extra (.updates entries))) cx).1 ≠
        Clause.updatesText ((entries.filter Usable).filterMap (text cx.config)) := by
  intro d cx entries
  have written : (onDuplicate (d.edit (.extra (.updates entries))) cx).1 =
      some "ON DUPLICATE KEY UPDATE  = 1, a = VALUES(a)" := by
    rw [onDuplicate_eq]
    decide +kernel
  have usable : Clause.updatesText ((entries.filter Usable).filterMap (text cx.config)) =
      some "ON DUPLICATE KEY UPDATE a = VALUES(a)" := by decide +kernel
  refine ⟨written, usable, ?_⟩
  rw [written, usable]
  decide

end Mysql

end SqlClauses
