import SqlClauses.Proofs.Registry.Readings

set_option autoImplicit false

namespace SqlClauses.Registry

variable {S : Type}

def visible (named : List (String × Option String)) : List (String × String) :=
  named.filterMap fun entry => (entry.2.filter (· ≠ "")).map (entry.1, ·)

def shown (R : Registry S) (cx : Context) (s : S) : List (String × String) :=
  visible (R.names.zip (R.written cx s))

def left (R : Registry S) (cx : Context) (s : S) : Context :=
  ((R.render s).runFrom cx).2

theorem visible_append (front back : List (String × Option String)) :
    visible (front ++ back) = visible front ++ visible back := by
  simp [visible]

theorem written_cons (kind : Kind) (c : Clause S) (rest : List (Clause S)) (cx : Context) (s : S) :
    (⟨kind, c :: rest⟩ : Registry S).written cx s =
      ((c.renderer s).runFrom cx).1 ::
        (⟨kind, rest⟩ : Registry S).written ((c.renderer s).runFrom cx).2 s := by
  simp only [written, Render.runFrom, List.mapM_cons]
  rfl

theorem left_cons (kind : Kind) (c : Clause S) (rest : List (Clause S)) (cx : Context) (s : S) :
    (⟨kind, c :: rest⟩ : Registry S).left cx s =
      (⟨kind, rest⟩ : Registry S).left ((c.renderer s).runFrom cx).2 s := by
  simp only [left, render, Render.runFrom, List.mapM_cons]
  rfl

theorem length_written (R : Registry S) (cx : Context) (s : S) :
    (R.written cx s).length = R.names.length := by
  obtain ⟨kind, clauses⟩ := R
  induction clauses generalizing cx with
  | nil => rfl
  | cons c rest ih => simpa [written_cons, names] using ih _

variable (kind : Kind) (front back : List (Clause S)) (cx : Context) (s : S)

theorem left_append :
    (⟨kind, front ++ back⟩ : Registry S).left cx s =
      (⟨kind, back⟩ : Registry S).left ((⟨kind, front⟩ : Registry S).left cx s) s := by
  induction front generalizing cx with
  | nil => rfl
  | cons c rest ih => rw [List.cons_append, left_cons, ih, left_cons]

theorem written_append :
    (⟨kind, front ++ back⟩ : Registry S).written cx s =
      (⟨kind, front⟩ : Registry S).written cx s ++
        (⟨kind, back⟩ : Registry S).written ((⟨kind, front⟩ : Registry S).left cx s) s := by
  induction front generalizing cx with
  | nil => rfl
  | cons c rest ih =>
    rw [List.cons_append, written_cons, ih, written_cons, left_cons, List.cons_append]

theorem shown_append :
    (⟨kind, front ++ back⟩ : Registry S).shown cx s =
      (⟨kind, front⟩ : Registry S).shown cx s ++
        (⟨kind, back⟩ : Registry S).shown ((⟨kind, front⟩ : Registry S).left cx s) s := by
  have lengths := (⟨kind, front⟩ : Registry S).length_written cx s
  have apart : (⟨kind, front ++ back⟩ : Registry S).names =
      (⟨kind, front⟩ : Registry S).names ++ (⟨kind, back⟩ : Registry S).names := by
    simp [names]
  rw [shown, apart, written_append, List.zip_append lengths.symm, visible_append]
  rfl

theorem render_eq_shown (R : Registry S) (cx : Context) (s : S) :
    ((R.render s).runFrom cx).1 = " ".intercalate ((R.shown cx s).map Prod.snd) := by
  have texts : (R.shown cx s).map Prod.snd =
      ((R.written cx s).filterMap id).filter (· ≠ "") := by
    have kept : ((R.names.zip (R.written cx s)).map Prod.snd) = R.written cx s :=
      List.map_snd_zip (Nat.le_of_eq (R.length_written cx s))
    rw [shown, visible, List.map_filterMap, List.filter_filterMap]
    conv_rhs => rw [← kept, List.filterMap_map]
    congr 1
    funext ⟨name, text⟩
    cases text with
    | none => rfl
    | some text => simp [Function.comp_def]
  rw [texts]
  rfl

theorem toSql_eq_shown (R : Registry S) (config : Config) (s : S) :
    R.toSql config s = " ".intercalate ((R.shown (.inline config) s).map Prod.snd) :=
  R.render_eq_shown _ s

theorem prepare_eq_shown (R : Registry S) (config : Config) (s : S) :
    R.prepare config s =
      ⟨" ".intercalate ((R.shown (.parameterized config) s).map Prod.snd),
        (R.left (.parameterized config) s).params⟩ := by
  rw [← R.render_eq_shown]
  rfl

end SqlClauses.Registry
