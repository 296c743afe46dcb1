import SqlClauses.Json.Derived
import SqlClauses.Proofs.Json.Library
import SqlClauses.Proofs.Json.Reading

set_option autoImplicit false

namespace SqlClauses

namespace Json

open Text (escape hexDigit)

theorem Body.append {v w : List Char} {fs gs : List Text.Glyph} (first : Body v fs)
    (second : Body w gs) : Body (v ++ w) (fs ++ gs) := by
  induction first with
  | nil => exact second
  | plain notQuote notEscape printable _ ih => exact .plain notQuote notEscape printable ih
  | short listed _ ih => exact .short listed ih
  | unit a b c d _ ih => exact .unit a b c d ih

theorem Encodes.append {fs gs : List Text.Glyph} {cs ds : List Char} (first : Encodes fs cs)
    (second : Encodes gs ds) : Encodes (fs ++ gs) (cs ++ ds) := by
  induction first with
  | nil => exact second
  | char _ ih => exact .char ih
  | unit basic _ ih => exact .unit basic ih
  | pair beyond _ ih => exact .pair beyond ih

theorem Spells.append {v w cs ds : List Char} (first : Spells v cs) (second : Spells w ds) :
    Spells (v ++ w) (cs ++ ds) := by
  obtain ⟨fs, firstBody, firstEncodes⟩ := first
  obtain ⟨gs, secondBody, secondEncodes⟩ := second
  exact ⟨fs ++ gs, firstBody.append secondBody, firstEncodes.append secondEncodes⟩

theorem hexDigit_spec {n : Nat} (small : n < 16) : HexDigit (hexDigit n) n := by
  have all : ∀ n : Fin 16, n.val < 10 ∧ (hexDigit n).toNat = 48 + n ∨
      10 ≤ n.val ∧ (hexDigit n).toNat = 87 + n := by decide
  rcases all ⟨n, small⟩ with decimal | ⟨least, code⟩
  · exact .inl decimal
  · exact .inr ⟨least, small, .inr code⟩

theorem spells_control {c : Char} (control : c.toNat < 32) :
    Spells ['\\', 'u', '0', '0', hexDigit (c.toNat / 16), hexDigit (c.toNat % 16)] [c] := by
  have zero : HexDigit '0' 0 := .inl ⟨by decide, rfl⟩
  have body := Body.unit zero zero (hexDigit_spec (show c.toNat / 16 < 16 by omega))
    (hexDigit_spec (show c.toNat % 16 < 16 by omega)) .nil
  have code : ((0 * 16 + 0) * 16 + c.toNat / 16) * 16 + c.toNat % 16 = c.toNat := by omega
  rw [code] at body
  exact ⟨_, body, .unit (by omega) .nil⟩

theorem spells_short {e c : Char} (listed : (e, c) ∈ shortEscapes) : Spells ['\\', e] [c] :=
  ⟨_, .short listed .nil, .char .nil⟩

theorem spells_escape (c : Char) : Spells (escape c) [c] := by
  unfold escape
  split
  case h_8 notQuote notEscape _ _ _ _ _ =>
    by_cases control : c.toNat < 32
    · rw [if_pos control]
      exact spells_control control
    · rw [if_neg control]
      exact ⟨_, .plain notQuote notEscape (by omega) .nil, .char .nil⟩
  all_goals exact spells_short (by decide)

theorem spells_escaped (cs : List Char) : Spells (cs.flatMap escape) cs := by
  induction cs with
  | nil => exact ⟨[], .nil, .nil⟩
  | cons c cs ih => exact (spells_escape c).append ih

theorem toList_quoted (text : String) :
    (Text.quoted text).toList = inQuotes (text.toList.flatMap escape) := by
  simp [Text.quoted, inQuotes]

theorem writesText_quoted (text : String) : WritesText text.toList (Text.quoted text).toList :=
  ⟨_, spells_escaped text.toList, toList_quoted text⟩

theorem WritesText.reading_eq {text : String} {w : List Char}
    (writes : WritesText text.toList w) : reading w = .string (some text) := by
  obtain ⟨body, spells, rfl⟩ := writes
  exact reading_inQuotes spells

theorem MembersText.scalar {ms : List Member} {w : List Char} (members : MembersText ms w) :
    ∀ m ∈ ms, IsScalar m.2 := by
  induction members with
  | last member =>
    cases member with
    | mk _ scalar => simpa using scalar
  | more member _ _ _ ih =>
    cases member with
    | mk _ scalar => exact List.forall_mem_cons.mpr ⟨scalar, ih⟩

theorem ObjectText.scalar {ms : List Member} {w : List Char} (object : ObjectText ms w) :
    ∀ m ∈ ms, IsScalar m.2 := by
  cases object with
  | empty => simp
  | members members => exact members.scalar

theorem snakeCase_word (c : Char) (rest : List Char) (lower : ∀ d ∈ rest, d.isLower = true) :
    snakeCase (String.ofList (c :: rest)) = String.ofList (c.toLower :: rest) := by
  have kept : rest.flatMap (fun d => if d.isUpper then ['_', d.toLower] else [d]) = rest := by
    induction rest with
    | nil => rfl
    | cons d rest ih =>
      obtain ⟨first, others⟩ := List.forall_mem_cons.mp lower
      have small : d.isUpper = false := by
        rw [Bool.eq_false_iff]
        intro upper
        have least : 'a'.val ≤ d.val := of_decide_eq_true (Bool.and_eq_true_iff.mp first).1
        have most : d.val ≤ 'Z'.val := (of_decide_eq_true upper).2
        exact absurd (UInt32.le_trans least most) (by decide)
      simp [small, ih others]
  simp [snakeCase, kept]

end Json

open Json

@[simp] theorem Json.library_print {α : Type} (shape : Shape α) (a : α) :
    JsonLibrary.print shape a = shape.text a := rfl

theorem Json.library_parse_scalar {α : Type} (shape : Shape α) {text : String}
    (scalar : IsScalar text.toList) :
    JsonLibrary.parse shape text = shape.ofJson (reading text.toList) := by
  change (Json.parse text).bind shape.ofJson = _
  rw [parse_scalar scalar, Option.bind_some]

theorem Json.member_reading (name : String) (members : List Member) :
    member name (members.map fun m => (m.1, reading m.2)) =
      match valuesOf name members with
      | [] => some none
      | [w] => some (some (reading w))
      | _ => none := by
  have filtered : (members.map fun m => (m.1, reading m.2)).filter (fun entry => entry.1 = name) =
      (members.filter fun m => m.1 = name).map fun m => (m.1, reading m.2) := by
    rw [List.filter_map]
    rfl
  rw [member, filtered, valuesOf]
  generalize members.filter (fun m => decide (m.1 = name)) = found
  rcases found with _ | ⟨m, _ | ⟨n, rest⟩⟩ <;> rfl

theorem Json.named_members (members : List Member) :
    (members.map fun m => (some m.1, reading m.2)).mapM named =
      some (members.map fun m => (m.1, reading m.2)) := by
  induction members with
  | nil => rfl
  | cons m rest ih => simp [List.mapM_cons, ih, named]

theorem Json.scalar_of_mem_valuesOf {name : String} {members : List Member} {w : List Char}
    (scalar : ∀ m ∈ members, IsScalar m.2) (found : w ∈ valuesOf name members) : IsScalar w := by
  obtain ⟨m, kept, rfl⟩ := List.mem_map.mp found
  exact scalar m (List.mem_filter.mp kept |>.1)

theorem Fields.ofMembers_reading {members : List Member} (scalar : ∀ m ∈ members, IsScalar m.2) :
    {α : Type} → (fields : Fields α) → (a : α) →
      fields.ofMembers (members.map fun m => (m.1, reading m.2)) a = fields.fill members a
  | _, .nil, _ => by rw [ofMembers, fill]
  | _, .cons name shape _ set rest, a => by
    rw [ofMembers, fill, member_reading]
    cases found : valuesOf name members with
    | nil => exact ofMembers_reading scalar rest a
    | cons w others =>
      cases others with
      | nil =>
        have alone : IsScalar w := scalar_of_mem_valuesOf scalar (by rw [found]; simp)
        have read : JsonLibrary.parse shape (String.ofList w) = shape.ofJson (reading w) := by
          have scalar : IsScalar (String.ofList w).toList := by rwa [String.toList_ofList]
          rw [library_parse_scalar shape scalar, String.toList_ofList]
        simp only [Option.bind_eq_bind, Option.bind_some, read,
          ofMembers_reading scalar rest]
      | cons => rfl

theorem Json.memberText_field (name : String) {w : String} (scalar : IsScalar w.toList) :
    MemberText (name, w.toList) (Text.quoted name ++ ":" ++ w).toList := by
  have blanks : AreBlanks [] := by simp [AreBlanks]
  simpa [toList_quoted] using
    MemberText.mk (spells_escaped name.toList) scalar blanks blanks

theorem Fields.membersText_texts {α β : Type} {name : String} {shape : Shape β} {get : α → β}
    {set : β → α → α} (a : α) : (rest : Fields α) →
      (∀ m ∈ (cons name shape get set rest).members a, IsScalar m.2) →
      MembersText ((cons name shape get set rest).members a)
        (",".intercalate ((cons name shape get set rest).texts a)).toList
  | .nil, scalar => by
    have first := memberText_field name (scalar _ List.mem_cons_self)
    simpa [members, texts] using MembersText.last first
  | .cons next shape' get' set' rest, scalar => by
    have blanks : AreBlanks [] := by simp [AreBlanks]
    have first := memberText_field name (scalar _ List.mem_cons_self)
    have others := membersText_texts a rest fun m found => scalar m (List.mem_cons_of_mem _ found)
    rw [members, texts, texts, String.intercalate_cons_cons, ← texts]
    simpa using MembersText.more first blanks blanks others

theorem Fields.objectText_text {α : Type} (a : α) : (fields : Fields α) →
    (∀ m ∈ fields.members a, IsScalar m.2) →
      ObjectText (fields.members a)
        ("\x7b" ++ ",".intercalate (fields.texts a) ++ "\x7d").toList
  | .nil, _ => by
    have blanks : AreBlanks [] := by simp [AreBlanks]
    simpa [members, texts] using ObjectText.empty blanks blanks blanks
  | .cons name shape get set rest, scalar => by
    have blanks : AreBlanks [] := by simp [AreBlanks]
    have inside := membersText_texts a rest scalar
    simpa using ObjectText.members inside blanks blanks blanks blanks

theorem Json.find_choice {α : Type} {name : α → String} {all : List α} {a : α}
    (known : a ∈ all) (apart : ∀ b ∈ all, snakeCase (name b) = snakeCase (name a) → b = a) :
    all.find? (fun b => snakeCase (name b) = snakeCase (name a)) = some a := by
  cases found : all.find? fun b => snakeCase (name b) = snakeCase (name a) with
  | none => simpa using List.find?_eq_none.mp found a known
  | some b =>
    have same : snakeCase (name b) = snakeCase (name a) := by simpa using List.find?_some found
    rw [apart b (List.mem_of_find?_eq_some found) same]

theorem Json.library_documented : JsonLibrary.Documented where
  snakeCase_word c rest _ lower := snakeCase_word c rest lower
  print_char c := by
    have printed := writesText_quoted c.toString
    rwa [show c.toString.toList = [c] by simp] at printed
  parse_char c text writes := by
    have read : reading text.toList = .string (some c.toString) :=
      WritesText.reading_eq (by simpa using writes)
    rw [library_parse_scalar .char writes.scalar, read]
    simp [Shape.ofJson]
  print_none inner := rfl
  print_some inner a := rfl
  parse_null inner := by
    have scalar : IsScalar "null".toList := .null
    rw [library_parse_scalar _ scalar]
    rfl
  parse_other inner text scalar other := by
    have shown := reading_ne_null scalar fun same => other (String.toList_inj.mp same)
    rw [library_parse_scalar _ scalar, library_parse_scalar _ scalar, Shape.ofJson]
    exact fun _ _ _ _ => shown
  print_choice name all a := writesText_quoted _
  parse_choice name all a text known apart writes := by
    rw [library_parse_scalar _ writes.scalar, writes.reading_eq, Shape.ofJson]
    exact find_choice known apart
  print_record standard fields a scalar := fields.objectText_text a scalar
  parse_record standard fields members text _ object := by
    change (Json.parse text).bind _ = _
    rw [parse_object object, Option.bind_some, Shape.ofJson, named_members, Option.bind_some]
    exact fields.ofMembers_reading object.scalar standard

end SqlClauses
