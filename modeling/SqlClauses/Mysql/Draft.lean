import SqlClauses.Extension.Ignore
import SqlClauses.Extension.Ordering
import SqlClauses.Extension.Paging
import SqlClauses.Extension.Upsert
import SqlClauses.Statement.Basic

set_option autoImplicit false

namespace SqlClauses.Mysql

structure Paging where
  limit : Option Nat := none
  offset : Option Nat := none
deriving DecidableEq

structure Conflict where
  ignored : Bool := false
  updates : Option (List UpdateColumn) := none
deriving DecidableEq

structure Bounds where
  ordering : List String := []
  limit : Option Nat := none
deriving DecidableEq

inductive Paging.Edit where
  | limit (n : Option Nat)
  | offset (n : Option Nat)

inductive Conflict.Edit where
  | ignore
  | updates (entries : List UpdateColumn)
  | updatesJson (json : Json)

inductive Bounds.Edit where
  | ordering (names : List String)
  | limit (n : Option Nat)

def Paging.edit (p : Paging) : Paging.Edit → Paging
  | .limit n => { p with limit := n }
  | .offset n => { p with offset := n }

def Conflict.edit (c : Conflict) : Conflict.Edit → Conflict
  | .ignore => { c with ignored := true }
  | .updates entries => { c with updates := some entries }
  | .updatesJson json => { c with updates := UpdateColumn.listOfJson json }

def Bounds.edit (b : Bounds) : Bounds.Edit → Bounds
  | .ordering names => { b with ordering := names }
  | .limit n => { b with limit := n }

@[reducible] def Extra : Kind → Type
  | .select => Paging
  | .insert => Conflict
  | .update => Bounds
  | .delete => Bounds

namespace Extra

@[reducible] def Edit : Kind → Type
  | .select => Paging.Edit
  | .insert => Conflict.Edit
  | .update => Bounds.Edit
  | .delete => Bounds.Edit

def none : (k : Kind) → Extra k
  | .select => {}
  | .insert => {}
  | .update => {}
  | .delete => {}

def edit : {k : Kind} → Extra k → Edit k → Extra k
  | .select, x, e => Paging.edit x e
  | .insert, x, e => Conflict.edit x e
  | .update, x, e => Bounds.edit x e
  | .delete, x, e => Bounds.edit x e

end Extra

structure Draft (k : Kind) where
  base : Statement k
  extra : Extra k

namespace Draft

inductive Edit (k : Kind) where
  | base (e : Statement.Edit k)
  | extra (e : Extra.Edit k)

def new (table : String) (columns : List String) (k : Kind) : Draft k :=
  ⟨Statement.new table columns k, Extra.none k⟩

def edit {k : Kind} (d : Draft k) : Edit k → Draft k
  | .base e => { d with base := d.base.edit e }
  | .extra e => { d with extra := d.extra.edit e }

instance : HasLimit (Draft .select) where
  limit d := d.extra.limit
  setLimit n d := { d with extra := Paging.edit d.extra (.limit n) }

instance : HasOffset (Draft .select) where
  offset d := d.extra.offset
  setOffset n d := { d with extra := Paging.edit d.extra (.offset n) }

instance : HasIgnore (Draft .insert) where
  ignored d := d.extra.ignored
  setIgnored d := { d with extra := Conflict.edit d.extra .ignore }

instance : HasUpsert (Draft .insert) where
  updates d := d.extra.updates
  setUpdates entries d := { d with extra := { d.extra with updates := entries } }

instance : HasOrdering (Draft .update) where
  ordering d := d.extra.ordering
  setOrdering names d := { d with extra := Bounds.edit d.extra (.ordering names) }

instance : HasLimit (Draft .update) where
  limit d := d.extra.limit
  setLimit n d := { d with extra := Bounds.edit d.extra (.limit n) }

instance : HasOrdering (Draft .delete) where
  ordering d := d.extra.ordering
  setOrdering names d := { d with extra := Bounds.edit d.extra (.ordering names) }

instance : HasLimit (Draft .delete) where
  limit d := d.extra.limit
  setLimit n d := { d with extra := Bounds.edit d.extra (.limit n) }

end Draft

end SqlClauses.Mysql
