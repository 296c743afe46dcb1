import Mathlib.Data.List.Nodup
import SqlClauses.Proofs.Registry.Shown
import SqlClauses.Proofs.Statement.Fields

set_option autoImplicit false

namespace SqlClauses

open Mysql (lastWritten)

namespace Template

def ReadsAs (t : Template) (text : String) : Prop :=
  text = t.inline ∨ ∃ style earlier, text = t.marked style earlier

theorem ReadsAs.ne_empty {t : Template} {text : String} (reads : t.ReadsAs text)
    (opens : t.Opens) : text ≠ "" := by
  rcases reads with rfl | ⟨style, earlier, rfl⟩
  · exact inline_ne_empty opens
  · exact marked_ne_empty opens style earlier

theorem ReadsAs.head {s text : String} {rest : Template} (reads : ReadsAs (.text s :: rest) text) :
    ∃ tail, text = s ++ tail := by
  rcases reads with rfl | ⟨style, earlier, rfl⟩
  · exact ⟨rest.inline, by simp⟩
  · exact ⟨rest.marked style earlier, by simp⟩

theorem readings_marked (style : Placeholder) (earlier : Nat) (fragments : List (Option Template)) :
    List.Forall₂ (Option.Rel ReadsAs) fragments (markedFragments style earlier fragments) := by
  induction fragments generalizing earlier with
  | nil => exact .nil
  | cons f rest ih =>
    cases f with
    | none => exact .cons .none (ih earlier)
    | some t => exact .cons (.some (.inr ⟨style, earlier, rfl⟩)) (ih _)

theorem readings_inline (fragments : List (Option Template)) :
    List.Forall₂ (Option.Rel ReadsAs) fragments (fragments.map (Option.map inline)) := by
  induction fragments with
  | nil => exact .nil
  | cons f rest ih =>
    cases f with
    | none => exact .cons .none ih
    | some t => exact .cons (.some (.inl rfl)) ih

end Template

theorem Registry.Gives.readings {S : Type} {R : Registry S} {cx : Context} {s : S}
    {fragments : List (Option Template)} (gives : R.Gives cx.config s fragments) :
    List.Forall₂ (Option.Rel Template.ReadsAs) fragments (R.written cx s) := by
  obtain ⟨config, collected⟩ := cx
  cases collected with
  | none =>
    have texts := gives.written_inline
    rw [Context.inline] at texts
    exact texts ▸ Template.readings_inline fragments
  | some values =>
    rw [gives.written_collecting values]
    exact Template.readings_marked _ _ _

theorem Config.isSome_columns (config : Config) (columns : List String) :
    (config.columns columns).isSome = columns.any (· ≠ "") := by
  unfold Config.columns Reference.columns
  cases kept : columns.filter (· ≠ "") with
  | nil =>
    have nameless := List.filter_eq_nil_iff.mp kept
    simpa using nameless
  | cons name rest =>
    have named : name ∈ columns.filter (· ≠ "") := kept ▸ List.mem_cons_self
    obtain ⟨listed, nonempty⟩ := List.mem_filter.mp named
    exact (List.any_eq_true.mpr ⟨name, listed, nonempty⟩).symm

theorem Expr.isSome_conjoined {E : Type} (added : E → Option Expr) (calls : List E) :
    (conjoined (calls.filterMap added)).isSome = calls.any fun e => (added e).isSome := by
  induction calls with
  | nil => rfl
  | cons e rest ih =>
    cases adds : added e with
    | none => simpa [adds] using ih
    | some x => cases others : rest.filterMap added <;> simp [adds, others, conjoined]

namespace Statement

structure Part (E : Type) where
  name : String
  openings : List String
  asked : List E → Bool

namespace Part

variable {E : Type}

def always (name opening : String) : Part E := ⟨name, [opening], fun _ => true⟩

def ofColumns (name keyword : String) (columns : List E → List String) : Part E :=
  ⟨name, [keyword ++ " "], fun calls => (columns calls).any (· ≠ "")⟩

def ofCalls (name : String) (openings : List String) (asks : E → Bool) : Part E :=
  ⟨name, openings, fun calls => calls.any asks⟩

def ofFilter {k : Kind} (f : Filter k) : Part (Edit k) :=
  ofCalls f.name [f.keyword ++ " "] fun e => (f.added e).isSome

structure Fits (calls : List E) (part : Part E) (t : Option Template) : Prop where
  asked : part.asked calls = t.isSome
  opens : ∀ u, t = some u →
    ∃ opening ∈ part.openings, ∃ more rest, u = .text (opening ++ more) :: rest

def Heads (part : Part E) (entry : String × String) : Prop :=
  entry.1 = part.name ∧ ∃ opening ∈ part.openings, ∃ rest, entry.2 = opening ++ rest

variable {calls : List E} {parts : List (Part E)} {fragments : List (Option Template)}

theorem heads_visible {texts : List (Option String)}
    (fits : List.Forall₂ (Fits calls) parts fragments)
    (readings : List.Forall₂ (Option.Rel Template.ReadsAs) fragments texts)
    (opens : ∀ t, some t ∈ fragments → t.Opens) :
    List.Forall₂ Heads (parts.filter fun part => part.asked calls)
      (Registry.visible ((parts.map name).zip texts)) := by
  induction fits generalizing texts with
  | nil => exact .nil
  | @cons part t parts fragments head _ ih =>
    cases readings with
    | @cons _ text _ texts reads readings =>
      have later := ih readings fun u member => opens u (List.mem_cons_of_mem _ member)
      have asked := head.asked
      cases reads with
      | none =>
        rw [Option.isSome_none] at asked
        simpa [Registry.visible, asked] using later
      | @some u text reads =>
        have nonempty := reads.ne_empty (opens u (by simp))
        obtain ⟨opening, listed, more, rest, rfl⟩ := head.opens u rfl
        obtain ⟨tail, rfl⟩ := reads.head
        rw [Option.isSome_some] at asked
        have here : part.Heads (part.name, opening ++ more ++ tail) :=
          ⟨rfl, opening, listed, more ++ tail, String.append_assoc ..⟩
        simpa [Registry.visible, asked, nonempty] using List.Forall₂.cons here later

theorem heads_shown {S : Type} {R : Registry S} {cx : Context} {s : S}
    (gives : R.Gives cx.config s fragments) (names : R.names = parts.map name)
    (fits : List.Forall₂ (Fits calls) parts fragments) :
    List.Forall₂ Heads (parts.filter fun part => part.asked calls) (R.shown cx s) := by
  rw [Registry.shown, names]
  exact heads_visible fits gives.readings (Registry.opens_of_forall₂ gives)

theorem names_of_heads {entries : List (String × String)}
    (heads : List.Forall₂ Heads parts entries) : entries.map Prod.fst = parts.map name := by
  induction heads with
  | nil => rfl
  | cons head _ ih => rw [List.map_cons, List.map_cons, ih, head.1]

theorem exists_headed {part : Part E} {entries : List (String × String)}
    (heads : List.Forall₂ Heads parts entries) (member : part ∈ parts) :
    ∃ entry ∈ entries, part.Heads entry := by
  induction heads with
  | nil => simp at member
  | cons head _ ih =>
    rcases List.mem_cons.mp member with rfl | member
    · exact ⟨_, by simp, head⟩
    · obtain ⟨entry, listed, headed⟩ := ih member
      exact ⟨entry, List.mem_cons_of_mem _ listed, headed⟩

theorem fits_always (name opening : String) {t : Template}
    (opens : ∃ more rest, t = .text (opening ++ more) :: rest) :
    (always name opening : Part E).Fits calls (some t) where
  asked := rfl
  opens u same := ⟨opening, by simp [always], Option.some.inj same ▸ opens⟩

theorem fits_ofColumns (name keyword : String) (columns : List E → List String)
    (config : Config) :
    (ofColumns name keyword columns).Fits calls
      (Clause.columnsTemplate keyword config (columns calls)) where
  asked := by
    rw [Clause.columnsTemplate, Option.isSome_map, Config.isSome_columns]
    rfl
  opens u same := by
    obtain ⟨list, -, rfl⟩ := Option.map_eq_some_iff.mp same
    exact ⟨keyword ++ " ", by simp [ofColumns], list, [], rfl⟩

theorem fits_ofCalls {A : Type} {openings : List String} {asks : E → Bool} {added : E → List A}
    {template : List A → Option Template} (name : String)
    (each : ∀ e, asks e = true ↔ added e ≠ []) (nothing : template [] = none)
    (opens : ∀ a rest, ∃ u, template (a :: rest) = some u ∧
      ∃ opening ∈ openings, ∃ more tail, u = .text (opening ++ more) :: tail) :
    (ofCalls name openings asks).Fits calls (template (calls.flatMap added)) := by
  have called : calls.any asks = decide (calls.flatMap added ≠ []) := by
    rw [Bool.eq_iff_iff, decide_eq_true_iff, ne_eq, List.flatMap_eq_nil_iff, List.any_eq_true]
    simp [each]
  constructor
  · change calls.any asks = _
    rw [called]
    cases items : calls.flatMap added with
    | nil => simp [nothing]
    | cons a rest =>
      obtain ⟨u, made, -⟩ := opens a rest
      simp [made]
  · intro u same
    cases items : calls.flatMap added with
    | nil => simp [items, nothing] at same
    | cons a rest =>
      obtain ⟨v, made, shape⟩ := opens a rest
      rw [items, made] at same
      exact Option.some.inj same ▸ shape

theorem fits_ofFilter {k : Kind} (f : Filter k) (calls : List (Edit k)) (config : Config) :
    (ofFilter f).Fits calls (Clause.conditionTemplate f.keyword config
      (Expr.conjoined (calls.filterMap f.added))) where
  asked := by
    rw [Clause.conditionTemplate, Option.isSome_map, Expr.isSome_conjoined]
    rfl
  opens u same := by
    obtain ⟨e, -, rfl⟩ := Option.map_eq_some_iff.mp same
    exact ⟨f.keyword ++ " ", by simp [ofFilter, ofCalls], "", e.template config, by simp⟩

end Part

def joinOpenings : List String := ["INNER JOIN ", "LEFT JOIN ", "RIGHT JOIN ", "CROSS JOIN "]

def order : (k : Kind) → List (Part (Edit k))
  | .select =>
    [.always "select" "SELECT ",
      .ofColumns "from" "FROM" fun calls => calls.flatMap Select.Edit.tables,
      .ofCalls "join" joinOpenings fun e => e.field = .joins,
      .ofFilter .selected,
      .ofColumns "group_by" "GROUP BY" fun calls =>
        (lastWritten Select.Edit.grouping? calls).getD [],
      .ofFilter .grouped,
      .ofColumns "order_by" "ORDER BY" fun calls =>
        (lastWritten Select.Edit.ordering? calls).getD []]
  | .insert =>
    [.always "insert" "INSERT",
      .always "into" "INTO ",
      .ofCalls "values" ["VALUES "] fun e => e.added ≠ []]
  | .update =>
    [.always "update" "UPDATE ",
      .ofCalls "set" ["SET "] fun e => e.field = .assignments,
      .ofFilter .updated]
  | .delete =>
    [.always "delete" "DELETE FROM ",
      .ofFilter .deleted]

theorem opens_join (config : Config) (j : Join) :
    ∃ opening ∈ joinOpenings, ∃ more, j.text config = opening ++ more := by
  cases j with
  | on side table condition =>
    refine ⟨side.keyword, by cases side <;> decide, ?_⟩
    exact ⟨_, by rw [Join.text, String.append_assoc, String.append_assoc]⟩
  | cross table => exact ⟨"CROSS JOIN ", by decide, config.column table, rfl⟩

theorem fits_select (config : Config) (calls : List Select.Edit) :
    List.Forall₂ (Part.Fits calls) (order .select)
      (Select.fragments config (Select.ofEdits calls)) := by
  have head : (Part.always "select" "SELECT ").Fits calls
      (some (Select.headTemplate config (Select.ofEdits calls))) :=
    Part.fits_always _ _ ⟨_, [], by rw [Select.headTemplate, String.append_assoc]⟩
  have joined : (Part.ofCalls "join" joinOpenings fun e => e.field = .joins).Fits calls
      (Select.joinsTemplate config (calls.flatMap Select.Edit.joins)) := by
    apply Part.fits_ofCalls
    · intro e
      cases e <;> simp [Select.Edit.field, Select.Edit.joins]
    · rfl
    · intro j rest
      obtain ⟨opening, listed, more, text⟩ := opens_join config j
      refine ⟨_, rfl, opening, listed, ?_⟩
      cases rest with
      | nil => exact ⟨more, [], by simp [text]⟩
      | cons next rest =>
        exact ⟨_, [], by rw [List.map_cons, List.map_cons, String.intercalate_cons_cons, text,
          String.append_assoc, String.append_assoc]⟩
  exact .cons head <|
    .cons (Part.fits_ofColumns ..) <|
    .cons joined <|
    .cons (Part.fits_ofFilter .selected calls config) <|
    .cons (Part.fits_ofColumns ..) <|
    .cons (Part.fits_ofFilter .grouped calls config) <|
    .cons (Part.fits_ofColumns ..) .nil

theorem fits_insert (config : Config) (table : String) (columns : List String)
    (calls : List Insert.Edit) :
    List.Forall₂ (Part.Fits calls) (order .insert)
      (Insert.fragments config (Insert.ofEdits table columns calls)) := by
  have target : (Part.always "into" "INTO ").Fits calls
      (some (Insert.targetTemplate config (Insert.ofEdits table columns calls))) := by
    apply Part.fits_always
    unfold Insert.targetTemplate
    split
    · exact ⟨_, [], rfl⟩
    · rename_i list _
      exact ⟨config.column table ++ (" (" ++ (list ++ ")")), [], by
        simp only [String.append_assoc, Insert.ofEdits]⟩
  have rows : (Part.ofCalls "values" ["VALUES "] fun e => e.added ≠ []).Fits calls
      (Insert.rowsTemplate (calls.flatMap Insert.Edit.added)) := by
    apply Part.fits_ofCalls
    · simp
    · rfl
    · intro row rest
      exact ⟨_, rfl, "VALUES ", by simp, "", _, rfl⟩
  exact .cons (Part.fits_always _ _ ⟨"", [], rfl⟩) (.cons target (.cons rows .nil))

theorem fits_update (config : Config) (table : String) (calls : List Update.Edit) :
    List.Forall₂ (Part.Fits calls) (order .update)
      (Update.fragments config (Update.ofEdits table calls)) := by
  have assigned : (Part.ofCalls "set" ["SET "] fun e => e.field = .assignments).Fits calls
      (Update.assignedTemplate config (calls.flatMap Update.Edit.assignments)) := by
    apply Part.fits_ofCalls
    · intro e
      cases e <;> simp [Update.Edit.field, Update.Edit.assignments]
    · rfl
    · intro a rest
      exact ⟨_, rfl, "SET ", by simp, "", _, rfl⟩
  exact .cons (Part.fits_always _ _ ⟨_, [], rfl⟩) <|
    .cons assigned <|
    .cons (Part.fits_ofFilter .updated calls config) .nil

theorem fits_order (config : Config) {k : Kind} (table : String) (columns : List String)
    (calls : List (Edit k)) :
    List.Forall₂ (Part.Fits calls) (order k)
      (fragments config (ofEdits table columns k calls)) := by
  cases k with
  | select => exact fits_select config calls
  | insert => exact fits_insert config table columns calls
  | update => exact fits_update config table calls
  | delete =>
    exact .cons (Part.fits_always _ _ ⟨_, [], rfl⟩) <|
      .cons (Part.fits_ofFilter .deleted calls config) .nil

theorem distinct_order (k : Kind) : ((order k).map Part.name).Nodup := by
  cases k <;> decide

theorem ofFilter_mem_order {k : Kind} (f : Filter k) : Part.ofFilter f ∈ order k := by
  cases f <;> simp [order]

variable {k : Kind} {calls : List (Edit k)} {entries : List (String × String)}

theorem distinct_of_heads
    (heads : List.Forall₂ Part.Heads ((order k).filter fun part => part.asked calls) entries) :
    (entries.map Prod.fst).Nodup := by
  rw [Part.names_of_heads heads]
  exact (distinct_order k).sublist (List.filter_sublist.map _)

theorem filter_shown_iff (f : Filter k)
    (heads : List.Forall₂ Part.Heads ((order k).filter fun part => part.asked calls) entries) :
    (∃ e ∈ calls, (f.added e).isSome) ↔
      ∃ text, (f.name, f.keyword ++ " " ++ text) ∈ entries := by
  constructor
  · rintro ⟨e, called, adds⟩
    have due : Part.ofFilter f ∈ (order k).filter fun part => part.asked calls :=
      List.mem_filter.mpr ⟨ofFilter_mem_order f, List.any_eq_true.mpr ⟨e, called, adds⟩⟩
    obtain ⟨⟨name, text⟩, member, same, opening, listed, rest, begins⟩ :=
      Part.exists_headed heads due
    obtain rfl := List.mem_singleton.mp listed
    obtain rfl : name = f.name := same
    obtain rfl : text = f.keyword ++ " " ++ rest := begins
    exact ⟨rest, member⟩
  · rintro ⟨text, member⟩
    have named : f.name ∈ entries.map Prod.fst := List.mem_map_of_mem member
    rw [Part.names_of_heads heads] at named
    obtain ⟨part, due, same⟩ := List.mem_map.mp named
    obtain ⟨listed, asked⟩ := List.mem_filter.mp due
    -- Names are distinct, so the part of that name is the one of the filter.
    have unique : part = Part.ofFilter f :=
      List.inj_on_of_nodup_map (distinct_order k) listed (ofFilter_mem_order f) same
    rw [unique] at asked
    exact List.any_eq_true.mp asked

theorem clauses_show_when_asked (config : Config) {k : Kind} (table : String)
    (columns : List String) (calls : List (Edit k)) :
    let s := calls.foldl edit (new table columns k)
    let shown (cx : Context) := (clauses k).shown cx s
    s.toSql config = " ".intercalate ((shown (.inline config)).map Prod.snd) ∧
      (s.prepare config).text = " ".intercalate ((shown (.parameterized config)).map Prod.snd) ∧
      ∀ cx : Context,
        List.Forall₂ Part.Heads ((order k).filter fun part => part.asked calls) (shown cx) ∧
          ((shown cx).map Prod.fst).Nodup ∧
          ∀ f : Filter k, (∃ e ∈ calls, (f.added e).isSome) ↔
            ∃ text, (f.name, f.keyword ++ " " ++ text) ∈ shown cx := by
  intro s shown
  have reached : s = ofEdits table columns k calls := run table columns calls
  have heads (cx : Context) :
      List.Forall₂ Part.Heads ((order k).filter fun part => part.asked calls) (shown cx) := by
    apply Part.heads_shown (clauses_gives cx.config s)
    · cases k <;> rfl
    · rw [reached]
      exact fits_order cx.config table columns calls
  have prepared := congrArg Prepared.text (Registry.prepare_eq_shown (clauses k) config s)
  exact ⟨Registry.toSql_eq_shown .., prepared, fun cx =>
    ⟨heads cx, distinct_of_heads (heads cx), fun f => filter_shown_iff f (heads cx)⟩⟩

end Statement

end SqlClauses
