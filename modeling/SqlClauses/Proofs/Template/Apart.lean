import SqlClauses.Proofs.Condition.Token
import SqlClauses.Proofs.Mysql.Fragments

set_option autoImplicit false

namespace SqlClauses

open Syntax (Boundary)

namespace Template

def Breaks : Template → Prop
  | [] => True
  | .text s :: _ => s ≠ "" ∧ Boundary s.toList
  | .value _ :: _ => False

def Apart : Template → Prop
  | [] => True
  | .text _ :: rest => Apart rest
  | .value _ :: rest => Breaks rest ∧ Apart rest

theorem Breaks.append {t u : Template} (first : Breaks t) (second : Breaks u) :
    Breaks (t ++ u) := by
  cases t with
  | nil => exact second
  | cons p rest =>
    cases p with
    | text s => exact first
    | value v => exact first.elim

theorem Apart.append {t u : Template} (first : Apart t) (second : Apart u) (breaks : Breaks u) :
    Apart (t ++ u) := by
  induction t with
  | nil => exact second
  | cons p rest ih =>
    cases p with
    | text s => exact ih first
    | value v => exact ⟨first.1.append breaks, ih first.2⟩

theorem Apart.of_silent {t : Template} (silent : t.values = []) : Apart t := by
  induction t with
  | nil => trivial
  | cons p rest ih =>
    cases p with
    | text s => exact ih silent
    | value v => cases silent

theorem Apart.behind {front back : Template} {v : Value} (h : Apart (front ++ .value v :: back)) :
    Breaks back := by
  induction front with
  | nil => exact h.1
  | cons p front ih =>
    cases p with
    | text s => exact ih h
    | value w => exact ih h.2

theorem Breaks.boundary {t : Template} (h : Breaks t) : Boundary t.inline.toList := by
  match t, h with
  | [], _ => exact .nil
  | .text s :: rest, h =>
    obtain ⟨nonempty, boundary⟩ := h
    intro c first
    refine boundary c ?_
    cases shape : s.toList with
    | nil => exact absurd (String.toList_eq_nil_iff.mp shape) nonempty
    | cons d text => simpa [shape] using first

theorem Apart.join {separator : String} (nonempty : separator ≠ "")
    (boundary : Boundary separator.toList) {items : List Template}
    (each : ∀ t ∈ items, Apart t) : Apart (join separator items) := by
  induction items with
  | nil => trivial
  | cons t rest ih =>
    cases rest with
    | nil => simpa using each t (by simp)
    | cons u rest =>
      have later := ih fun v member => each v (by simp [member])
      rw [join_cons_cons]
      exact (each t (by simp)).append later ⟨nonempty, boundary⟩

theorem Apart.list {items : List Template} (each : ∀ t ∈ items, Apart t) :
    Apart (Template.join ", " items) :=
  .join (by simp) (by simp [Boundary]) each

theorem Apart.listOfValues (values : List Value) :
    Apart (Template.join ", " (values.map fun v => [Piece.value v])) := by
  refine .list fun t member => ?_
  obtain ⟨v, -, rfl⟩ := List.mem_map.mp member
  exact ⟨trivial, trivial⟩

theorem Apart.close {t : Template} (h : Apart t) : Apart (t ++ [.text ")"]) :=
  h.append trivial ⟨by simp, by simp [Boundary]⟩

theorem Apart.ofFragments {fragments : List (Option Template)}
    (each : ∀ t, some t ∈ fragments → Apart t) : Apart (.ofFragments fragments) :=
  .join (by simp) (by simp [Boundary]) fun t member => each t (by simpa using member)

end Template

open Template (Apart)

namespace Expr

theorem apart_parenthesize (wrap : Bool) {t : Template} (h : Apart t) :
    Apart (parenthesize wrap t) := by
  cases wrap with
  | false => exact h
  | true => exact h.close

theorem apart_group {empty : Template} (silent : empty.values = []) {separator : String}
    (nonempty : separator ≠ "") (boundary : Boundary separator.toList) {items : List Template}
    (each : ∀ t ∈ items, Apart t) : Apart (group empty separator items) := by
  cases items with
  | nil => exact .of_silent silent
  | cons t rest => exact .join nonempty boundary each

theorem apart_membership (column : String) (negated : Bool) (values : List Value) :
    Apart (membership column negated values) := by
  cases values with
  | nil => cases negated <;> exact .of_silent rfl
  | cons v rest => exact (Apart.listOfValues (v :: rest)).close

mutual

theorem apart_template (config : Config) : (e : Expr) → Apart (e.template config)
  | .compare _ _ _ => ⟨trivial, trivial⟩
  | .isNull _ _ => trivial
  | .between _ _ _ _ => ⟨⟨by simp, by simp [Boundary]⟩, trivial, trivial⟩
  | .inList _ _ _ => apart_membership _ _ _
  | .all items => apart_group rfl (by simp) (by simp [Boundary]) (apart_templates config items)
  | .any items => apart_group rfl (by simp) (by simp [Boundary]) (apart_templates config items)
  | .not inner => apart_parenthesize _ (apart_template config inner)
  | .raw _ => trivial

theorem apart_templates (config : Config) :
    (items : List Expr) → ∀ t ∈ templates config items, Apart t
  | [] => by simp [templates]
  | item :: rest => by
    rw [templates, List.forall_mem_cons]
    exact ⟨apart_parenthesize _ (apart_template config item), apart_templates config rest⟩

end

end Expr

theorem Clause.apart_conditionTemplate (keyword : String) (config : Config)
    (condition : Option Expr) :
    ∀ t, conditionTemplate keyword config condition = some t → Apart t := by
  intro t h
  obtain ⟨e, -, rfl⟩ := Option.map_eq_some_iff.mp h
  exact Expr.apart_template config e

theorem Insert.apart_rowsTemplate (rows : List (List Value)) :
    ∀ t, rowsTemplate rows = some t → Apart t := by
  intro t h
  have each : ∀ row ∈ rows.map rowTemplate, Apart row := by
    intro row member
    obtain ⟨values, -, rfl⟩ := List.mem_map.mp member
    exact (Apart.listOfValues values).close
  cases rows with
  | nil => cases h
  | cons row rest =>
    cases h
    exact Apart.list each

theorem Update.apart_assignedTemplate (config : Config) (assignments : List Assignment) :
    ∀ t, assignedTemplate config assignments = some t → Apart t := by
  intro t h
  have each : ∀ a ∈ assignments.map (Assignment.template config), Apart a := by
    intro a member
    obtain ⟨⟨column, assigned⟩, -, rfl⟩ := List.mem_map.mp member
    cases assigned with
    | value v => exact ⟨trivial, trivial⟩
    | raw sql => trivial
  cases assignments with
  | nil => cases h
  | cons a rest =>
    cases h
    exact Apart.list each

namespace Statement

theorem apart_of_silent {f : Option Template} (silent : f.elim [] Template.values = []) :
    ∀ t, f = some t → Apart t := by
  rintro t rfl
  exact .of_silent silent

theorem apart_fragments (config : Config) {k : Kind} (s : Statement k) :
    ∀ t, some t ∈ fragments config s → Apart t := by
  intro t member
  cases k with
  | select =>
    simp only [fragments, Select.fragments, List.mem_cons, List.not_mem_nil, or_false] at member
    obtain head | tables | joins | condition | grouping | having | ordering := member
    · exact apart_of_silent rfl t head.symm
    · exact apart_of_silent (Clause.values_columnsTemplate _ _ _) t tables.symm
    · exact apart_of_silent (Select.values_joinsTemplate _ _) t joins.symm
    · exact Clause.apart_conditionTemplate _ _ _ t condition.symm
    · exact apart_of_silent (Clause.values_columnsTemplate _ _ _) t grouping.symm
    · exact Clause.apart_conditionTemplate _ _ _ t having.symm
    · exact apart_of_silent (Clause.values_columnsTemplate _ _ _) t ordering.symm
  | insert =>
    simp only [fragments, Insert.fragments, List.mem_cons, List.not_mem_nil, or_false] at member
    obtain head | target | rows := member
    · exact apart_of_silent rfl t head.symm
    · cases target
      exact .of_silent (Insert.values_targetTemplate _ _)
    · exact Insert.apart_rowsTemplate _ t rows.symm
  | update =>
    simp only [fragments, Update.fragments, List.mem_cons, List.not_mem_nil, or_false] at member
    obtain head | assigned | condition := member
    · exact apart_of_silent rfl t head.symm
    · exact Update.apart_assignedTemplate _ _ t assigned.symm
    · exact Clause.apart_conditionTemplate _ _ _ t condition.symm
  | delete =>
    simp only [fragments, Delete.fragments, List.mem_cons, List.not_mem_nil, or_false] at member
    obtain head | condition := member
    · exact apart_of_silent rfl t head.symm
    · exact Clause.apart_conditionTemplate _ _ _ t condition.symm

end Statement

namespace Mysql.Draft

theorem apart_fragments (config : Config) {k : Kind} (d : Draft k) :
    ∀ t, some t ∈ fragments config d → Apart t := by
  intro t member
  have base := Statement.apart_fragments config d.base t
  cases k with
  | select =>
    simp only [fragments, List.mem_append, List.mem_cons, List.not_mem_nil, or_false] at member
    obtain inBase | limit | offset := member
    · exact base inBase
    · exact Statement.apart_of_silent (Clause.values_countTemplate _ _) t limit.symm
    · exact Statement.apart_of_silent (Clause.values_countTemplate _ _) t offset.symm
  | insert =>
    simp only [fragments, List.mem_cons, List.not_mem_nil, or_false] at member
    obtain head | ignored | target | rows | updates := member
    · exact Statement.apart_of_silent rfl t head.symm
    · exact Statement.apart_of_silent (Clause.values_ignoreTemplate _) t ignored.symm
    · cases target
      exact .of_silent (Insert.values_targetTemplate _ _)
    · exact Insert.apart_rowsTemplate _ t rows.symm
    · exact Statement.apart_of_silent (Clause.values_upsertTemplate _ _) t updates.symm
  | update | delete =>
    simp only [fragments, List.mem_append, List.mem_cons, List.not_mem_nil, or_false] at member
    obtain inBase | ordering | limit := member
    · exact base inBase
    · exact Statement.apart_of_silent (Clause.values_columnsTemplate _ _ _) t ordering.symm
    · exact Statement.apart_of_silent (Clause.values_countTemplate _ _) t limit.symm

theorem apart (config : Config) {k : Kind} (d : Draft k) :
    Apart (.ofFragments (d.fragments config)) :=
  .ofFragments (apart_fragments config d)

end Mysql.Draft

end SqlClauses
