import SqlClauses.Mysql.Grammar

set_option autoImplicit false

namespace SqlClauses.Mysql

def lastWritten {E A : Type} (written : E → Option A) (edits : List E) : Option A :=
  (edits.filterMap written).getLast?

theorem lastWritten_run {S E A : Type} (step : S → E → S) (field : S → A)
    (written : E → Option A) (each : ∀ s e, field (step s e) = (written e).getD (field s))
    (s : S) (edits : List E) :
    field (edits.foldl step s) = (lastWritten written edits).getD (field s) := by
  induction edits generalizing s with
  | nil => rfl
  | cons e rest ih =>
    rw [List.foldl_cons, ih, each]
    cases writes : written e with
    | none => simp [lastWritten, writes]
    | some a =>
      -- A later edit wins; without one, the first of the list is also the last.
      cases later : rest.filterMap written with
      | nil => simp [lastWritten, writes, later]
      | cons b others => simp [lastWritten, writes, later, List.getLast?_cons]

def Paging.Edit.limit? : Paging.Edit → Option (Option Nat)
  | .limit n => some n
  | .offset _ => none

def Paging.Edit.offset? : Paging.Edit → Option (Option Nat)
  | .limit _ => none
  | .offset n => some n

def Conflict.Edit.ignore? : Conflict.Edit → Option Bool
  | .ignore => some true
  | .updates _ => none
  | .updatesJson _ => none

def Conflict.Edit.updates? : Conflict.Edit → Option (Option (List UpdateColumn))
  | .ignore => none
  | .updates entries => some (some entries)
  | .updatesJson json => some (UpdateColumn.listOfJson json)

def Bounds.Edit.ordering? : Bounds.Edit → Option (List String)
  | .ordering names => some names
  | .limit _ => none

def Bounds.Edit.limit? : Bounds.Edit → Option (Option Nat)
  | .ordering _ => none
  | .limit n => some n

def Paging.ofEdits (edits : List Paging.Edit) : Paging where
  limit := (lastWritten Paging.Edit.limit? edits).getD none
  offset := (lastWritten Paging.Edit.offset? edits).getD none

def Conflict.ofEdits (edits : List Conflict.Edit) : Conflict where
  ignored := (lastWritten Conflict.Edit.ignore? edits).getD false
  updates := (lastWritten Conflict.Edit.updates? edits).getD none

def Bounds.ofEdits (edits : List Bounds.Edit) : Bounds where
  ordering := (lastWritten Bounds.Edit.ordering? edits).getD []
  limit := (lastWritten Bounds.Edit.limit? edits).getD none

theorem Paging.run (edits : List Paging.Edit) : edits.foldl Paging.edit {} = ofEdits edits := by
  have limit := lastWritten_run Paging.edit (·.limit) Paging.Edit.limit?
    (fun p e => by cases e <;> rfl) {} edits
  have offset := lastWritten_run Paging.edit (·.offset) Paging.Edit.offset?
    (fun p e => by cases e <;> rfl) {} edits
  cases reached : edits.foldl Paging.edit {} with
  | mk l o =>
    rw [reached] at limit offset
    simp only at limit offset
    rw [limit, offset]
    rfl

theorem Conflict.run (edits : List Conflict.Edit) :
    edits.foldl Conflict.edit {} = ofEdits edits := by
  have ignored := lastWritten_run Conflict.edit (·.ignored) Conflict.Edit.ignore?
    (fun c e => by cases e <;> rfl) {} edits
  have updates := lastWritten_run Conflict.edit (·.updates) Conflict.Edit.updates?
    (fun c e => by cases e <;> rfl) {} edits
  cases reached : edits.foldl Conflict.edit {} with
  | mk i u =>
    rw [reached] at ignored updates
    simp only at ignored updates
    rw [ignored, updates]
    rfl

theorem Bounds.run (edits : List Bounds.Edit) : edits.foldl Bounds.edit {} = ofEdits edits := by
  have ordering := lastWritten_run Bounds.edit (·.ordering) Bounds.Edit.ordering?
    (fun b e => by cases e <;> rfl) {} edits
  have limit := lastWritten_run Bounds.edit (·.limit) Bounds.Edit.limit?
    (fun b e => by cases e <;> rfl) {} edits
  cases reached : edits.foldl Bounds.edit {} with
  | mk o l =>
    rw [reached] at ordering limit
    simp only at ordering limit
    rw [ordering, limit]
    rfl

def Extra.ofEdits : (k : Kind) → List (Extra.Edit k) → Extra k
  | .select, edits => Paging.ofEdits edits
  | .insert, edits => Conflict.ofEdits edits
  | .update, edits => Bounds.ofEdits edits
  | .delete, edits => Bounds.ofEdits edits

namespace Draft

variable {k : Kind}

def Edit.base? : Edit k → Option (Statement.Edit k)
  | .base e => some e
  | .extra _ => none

def Edit.extra? : Edit k → Option (Extra.Edit k)
  | .base _ => none
  | .extra e => some e

theorem base_run (d : Draft k) (edits : List (Edit k)) :
    (edits.foldl edit d).base = (edits.filterMap Edit.base?).foldl Statement.edit d.base := by
  induction edits generalizing d with
  | nil => rfl
  | cons e rest ih =>
    rw [List.foldl_cons, ih]
    cases e <;> rfl

theorem extra_foldl (d : Draft k) (edits : List (Edit k)) :
    (edits.foldl edit d).extra = (edits.filterMap Edit.extra?).foldl Extra.edit d.extra := by
  induction edits generalizing d with
  | nil => rfl
  | cons e rest ih =>
    rw [List.foldl_cons, ih]
    cases e <;> rfl

theorem extra_run (table : String) (columns : List String) (edits : List (Edit k)) :
    (edits.foldl edit (new table columns k)).extra =
      Extra.ofEdits k (edits.filterMap Edit.extra?) := by
  rw [extra_foldl]
  cases k with
  | select => exact Paging.run _
  | insert => exact Conflict.run _
  | update => exact Bounds.run _
  | delete => exact Bounds.run _

end Draft

theorem Builder.run {k : Kind} (b : Builder k) (edits : List (Draft.Edit k)) :
    edits.foldl Builder.edit b = ⟨edits.foldl Draft.edit b.draft, b.grammar⟩ := by
  induction edits generalizing b with
  | nil => rfl
  | cons e rest ih =>
    rw [List.foldl_cons, ih]
    rfl

end SqlClauses.Mysql
