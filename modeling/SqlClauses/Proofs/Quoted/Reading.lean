import SqlClauses.Proofs.Condition.Token

set_option autoImplicit false

namespace SqlClauses.Quoted

def read (quote : Char) : List Char → Option (List Char × List Char)
  | [] => none
  | c :: rest =>
    if c = quote then
      match rest with
      | [] => some ([], [])
      | d :: later =>
        if d = quote then (read quote later).map fun (text, behind) => (quote :: text, behind)
        else some ([], d :: later)
    else (read quote rest).map fun (text, behind) => (c :: text, behind)

def readEscaped (escape : Char → List Char) (quote : Char) :
    List Char → Option (List Char × List Char)
  | [] => none
  | c :: rest =>
    if c = '\\' then
      match rest with
      | [] => none
      | d :: later =>
        (readEscaped escape quote later).map fun (text, behind) => (escape d ++ text, behind)
    else if c = quote then
      match rest with
      | [] => some ([], [])
      | d :: later =>
        if d = quote then
          (readEscaped escape quote later).map fun (text, behind) => (quote :: text, behind)
        else some ([], d :: later)
    else (readEscaped escape quote rest).map fun (text, behind) => (c :: text, behind)

variable {quote : Char}

theorem read_cons_of_ne {c : Char} (other : c ≠ quote) (rest : List Char) :
    read quote (c :: rest) = (read quote rest).map fun (text, behind) => (c :: text, behind) := by
  cases rest <;> simp [read, other]

theorem readEscaped_cons_of_ne (escape : Char → List Char) {c : Char} (plain : c ≠ '\\')
    (other : c ≠ quote) (rest : List Char) :
    readEscaped escape quote (c :: rest) =
      (readEscaped escape quote rest).map fun (text, behind) => (c :: text, behind) := by
  cases rest <;> simp [readEscaped, plain, other]

theorem length_double (text : List Char) :
    (double quote text).length = text.length + text.count quote := by
  induction text with
  | nil => rfl
  | cons c text ih =>
    by_cases same : c = quote
    · simp only [double, same, if_true, List.length_cons, ih, List.count_cons_self]
      omega
    · simp only [double, same, if_false, List.length_cons, ih, ne_eq, not_false_eq_true,
        List.count_cons_of_ne]
      omega

def Closes (quote : Char) (rest : List Char) : Prop := rest.head? ≠ some quote

theorem closes_of_boundary {rest : List Char} (boundary : Syntax.Boundary rest) :
    Closes '\'' rest := by
  intro first
  simpa using boundary '\'' first

theorem read_double {rest : List Char} (closes : Closes quote rest) (text : List Char) :
    read quote (double quote text ++ quote :: rest) = some (text, rest) := by
  induction text with
  | nil =>
    cases rest with
    | nil => simp [read]
    | cons d rest =>
      have other : d ≠ quote := by simpa [Closes] using closes
      simp [read, other]
  | cons c text ih =>
    by_cases same : c = quote
    · simp [double, read, same, ih]
    · simp [double, same, read_cons_of_ne same, ih]

theorem readEscaped_double (escape : Char → List Char) (apart : quote ≠ '\\') {rest : List Char}
    (closes : Closes quote rest) {text : List Char} (plain : '\\' ∉ text) :
    readEscaped escape quote (double quote text ++ quote :: rest) = some (text, rest) := by
  induction text with
  | nil =>
    cases rest with
    | nil => simp [readEscaped, apart]
    | cons d rest =>
      have other : d ≠ quote := by simpa [Closes] using closes
      simp [readEscaped, apart, other]
  | cons c text ih =>
    have later := ih fun member => plain (by simp [member])
    by_cases same : c = quote
    · simp [double, readEscaped, same, apart, later]
    · have here : c ≠ '\\' := fun same => plain (by simp [same])
      simp [double, same, readEscaped_cons_of_ne escape here same, later]

-- A quote in the text is read from two characters, and there is the closing one.
theorem length_of_readEscaped {escape : Char → Char} {input text rest : List Char}
    (h : readEscaped (fun c => [escape c]) quote input = some (text, rest)) :
    text.length + text.count quote + 1 + rest.length ≤ input.length := by
  have counted (c : Char) (text : List Char) : (c :: text).count quote ≤ text.count quote + 1 := by
    rw [List.count_cons]
    split <;> omega
  fun_induction readEscaped (fun c => [escape c]) quote input generalizing text rest with
  | case1 => cases h
  | case2 => cases h
  | case3 d later ih =>
    obtain ⟨⟨inner, behind⟩, read, same⟩ := Option.map_eq_some_iff.mp h
    cases same
    have bound := ih read
    have more := counted (escape d) inner
    simp only [List.singleton_append, List.length_cons]
    omega
  | case4 =>
    cases h
    simp
  | case5 later _ ih =>
    obtain ⟨⟨inner, behind⟩, read, same⟩ := Option.map_eq_some_iff.mp h
    cases same
    have bound := ih read
    simp only [List.count_cons_self, List.length_cons]
    omega
  | case6 =>
    cases h
    simp only [List.length_nil, List.count_nil, List.length_cons]
    omega
  | case7 c later _ other ih =>
    obtain ⟨⟨inner, behind⟩, read, same⟩ := Option.map_eq_some_iff.mp h
    cases same
    have bound := ih read
    simp only [List.count_cons_of_ne other, List.length_cons]
    omega

theorem not_readEscaped_double (escape : Char → Char) (apart : quote ≠ '\\') {text : List Char}
    (member : '\\' ∈ text) (rest : List Char) :
    readEscaped (fun c => [escape c]) quote (double quote text ++ quote :: rest) ≠
      some (text, rest) := by
  intro h
  induction text with
  | nil => cases member
  | cons c text ih =>
    by_cases here : c = '\\'
    · -- The backslash takes a character away, so too few are left for the rest of the text.
      subst here
      have other : '\\' ≠ quote := apart.symm
      obtain ⟨d, later, shape⟩ :
          ∃ d later, double quote text ++ quote :: rest = d :: later :=
        List.exists_cons_of_ne_nil (by simp)
      have length := congrArg List.length shape
      simp only [double, other, if_false, List.cons_append, shape, readEscaped, if_true] at h
      obtain ⟨⟨inner, behind⟩, read, same⟩ := Option.map_eq_some_iff.mp h
      obtain ⟨taken, rfl⟩ := Prod.mk.inj same
      obtain ⟨-, rfl⟩ := List.cons.inj taken
      have bound := length_of_readEscaped read
      simp only [List.length_append, length_double, List.length_cons, List.nil_append] at length bound
      omega
    · have later : '\\' ∈ text := (List.mem_cons.mp member).resolve_left (Ne.symm here)
      refine ih later ?_
      by_cases same : c = quote
      · simpa [double, readEscaped, same, apart, Option.map_eq_some_iff] using h
      · rw [double, if_neg same, List.cons_append, readEscaped_cons_of_ne _ here same] at h
        simpa [Option.map_eq_some_iff] using h

end SqlClauses.Quoted
