import SqlClauses.Proofs.Template.Basic
import SqlClauses.Registry.Render

set_option autoImplicit false

namespace SqlClauses.Template

@[simp] theorem inline_nil : inline [] = "" := rfl

@[simp] theorem inline_append (s t : Template) : inline (s ++ t) = inline s ++ inline t := by
  simp [inline]

@[simp] theorem inline_text_cons (s : String) (t : Template) :
    inline (.text s :: t) = s ++ inline t := by
  simp [inline, Piece.literal]

@[simp] theorem inline_value_cons (v : Value) (t : Template) :
    inline (.value v :: t) = v.literal ++ inline t := by
  simp [inline, Piece.literal]

@[simp] theorem marked_nil (style : Placeholder) (earlier : Nat) : marked style earlier [] = "" :=
  rfl

@[simp] theorem marked_append (style : Placeholder) (earlier : Nat) (s t : Template) :
    marked style earlier (s ++ t) =
      marked style earlier s ++ marked style (earlier + (values s).length) t := by
  simp [marked]

@[simp] theorem marked_text_cons (style : Placeholder) (earlier : Nat) (s : String)
    (t : Template) : marked style earlier (.text s :: t) = s ++ marked style earlier t := by
  simp [marked, marks]

@[simp] theorem marked_value_cons (style : Placeholder) (earlier : Nat) (v : Value)
    (t : Template) :
    marked style earlier (.value v :: t) =
      style.mark (earlier + 1) ++ marked style (earlier + 1) t := by
  simp [marked, marks]

theorem marked_eq_inline (style : Placeholder) (earlier : Nat) (t : Template)
    (silent : t.values = []) : t.marked style earlier = t.inline := by
  induction t with
  | nil => rfl
  | cons p rest ih =>
    cases p with
    | text s => simp [ih silent]
    | value v => cases silent

@[simp] theorem values_join (separator : String) (items : List Template) :
    values (join separator items) = items.flatMap values := by
  induction items with
  | nil => rfl
  | cons t rest ih =>
    cases rest with
    | nil => simp
    | cons u rest => simp [values, ih]

theorem inline_join (separator : String) (items : List Template) :
    inline (join separator items) = separator.intercalate (items.map inline) := by
  induction items with
  | nil => rfl
  | cons t rest ih =>
    cases rest with
    | nil => simp
    | cons u rest =>
      simp only [List.map_cons] at ih
      simp [ih, String.append_assoc]

theorem inline_texts (separator : String) (texts : List String) :
    inline (join separator (texts.map fun text => [Piece.text text])) =
      separator.intercalate texts := by
  have each : inline ∘ (fun text => [Piece.text text]) = id := by
    funext text
    simp
  rw [inline_join, List.map_map, each, List.map_id]

def markedEach (style : Placeholder) : Nat → List Template → List String
  | _, [] => []
  | earlier, t :: rest =>
    t.marked style earlier :: markedEach style (earlier + t.values.length) rest

theorem marked_join (style : Placeholder) (separator : String) (earlier : Nat)
    (items : List Template) :
    marked style earlier (join separator items) =
      separator.intercalate (markedEach style earlier items) := by
  induction items generalizing earlier with
  | nil => rfl
  | cons t rest ih =>
    cases rest with
    | nil => simp [markedEach]
    | cons u rest =>
      have next := ih (earlier + t.values.length)
      simp only [markedEach] at next
      simp [markedEach, next, String.append_assoc]

def markedFragments (style : Placeholder) : Nat → List (Option Template) → List (Option String)
  | _, [] => []
  | earlier, none :: rest => none :: markedFragments style earlier rest
  | earlier, some t :: rest =>
    some (t.marked style earlier) :: markedFragments style (earlier + t.values.length) rest

theorem filterMap_markedFragments (style : Placeholder) (earlier : Nat)
    (fragments : List (Option Template)) :
    (markedFragments style earlier fragments).filterMap id =
      markedEach style earlier (fragments.filterMap id) := by
  induction fragments generalizing earlier with
  | nil => rfl
  | cons f rest ih =>
    cases f with
    | none => simpa [markedFragments] using ih earlier
    | some t => simpa [markedFragments, markedEach] using ih (earlier + t.values.length)

def Opens (t : Template) : Prop :=
  ∃ s rest, t = .text s :: rest ∧ s ≠ ""

theorem inline_ne_empty {t : Template} (opens : t.Opens) : t.inline ≠ "" := by
  obtain ⟨s, rest, rfl, nonempty⟩ := opens
  simp [nonempty]

theorem marked_ne_empty {t : Template} (opens : t.Opens) (style : Placeholder) (earlier : Nat) :
    t.marked style earlier ≠ "" := by
  obtain ⟨s, rest, rfl, nonempty⟩ := opens
  simp [nonempty]

theorem markedEach_ne_empty (style : Placeholder) (earlier : Nat) (items : List Template)
    (opens : ∀ t ∈ items, t.Opens) : ∀ text ∈ markedEach style earlier items, text ≠ "" := by
  induction items generalizing earlier with
  | nil => simp [markedEach]
  | cons t rest ih =>
    intro text member
    rcases List.mem_cons.mp member with rfl | member
    · exact marked_ne_empty (opens t (by simp)) style earlier
    · exact ih _ (fun u hu => opens u (by simp [hu])) text member

def ofFragments (fragments : List (Option Template)) : Template :=
  join " " (fragments.filterMap id)

@[simp] theorem values_ofFragments (fragments : List (Option Template)) :
    values (ofFragments fragments) = fragments.flatMap fun f => f.elim [] values := by
  induction fragments with
  | nil => rfl
  | cons f rest ih =>
    simp only [ofFragments, values_join] at ih ⊢
    cases f with
    | none => simpa using ih
    | some t => simpa using ih

theorem assemble_inline (fragments : List (Option Template))
    (opens : ∀ t, some t ∈ fragments → t.Opens) :
    Registry.assemble (fragments.map (Option.map inline)) = (ofFragments fragments).inline := by
  have present : (fragments.map (Option.map inline)).filterMap id =
      (fragments.filterMap id).map inline := by
    simp [List.filterMap_map, List.map_filterMap]
  have kept : ((fragments.filterMap id).map inline).filter (· ≠ "") =
      (fragments.filterMap id).map inline := by
    apply List.filter_eq_self.mpr
    intro text member
    obtain ⟨t, ht, rfl⟩ := List.mem_map.mp member
    simpa using inline_ne_empty (opens t (by simpa using ht))
  rw [Registry.assemble, present, kept, ofFragments, inline_join]

theorem assemble_marked (style : Placeholder) (earlier : Nat) (fragments : List (Option Template))
    (opens : ∀ t, some t ∈ fragments → t.Opens) :
    Registry.assemble (markedFragments style earlier fragments) =
      (ofFragments fragments).marked style earlier := by
  have kept : (markedEach style earlier (fragments.filterMap id)).filter (· ≠ "") =
      markedEach style earlier (fragments.filterMap id) := by
    apply List.filter_eq_self.mpr
    intro text member
    simpa using markedEach_ne_empty style earlier _
      (fun t ht => opens t (by simpa using ht)) text member
  rw [Registry.assemble, filterMap_markedFragments, kept, ofFragments, marked_join]

end SqlClauses.Template
