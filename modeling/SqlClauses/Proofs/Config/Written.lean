import SqlClauses.Config.Json
import SqlClauses.Proofs.Json.Derived

set_option autoImplicit false

namespace SqlClauses.Config

open Json

-- The member is there once with such a value, or it is left out and that is allowed.
def Lists (name : String) (writes : List Char → Prop) (optional : Prop) (members : List Member) :
    Prop :=
  match valuesOf name members with
  | [] => optional
  | [w] => writes w
  | _ => False

def WritesQuote : Option Char → List Char → Prop
  | none, w => w = ['n', 'u', 'l', 'l']
  | some c, w => WritesText [c] w

-- An object that lists the settings in any order, among any other members.
def WrittenAs (config : Config) (text : String) : Prop :=
  ∃ members, ObjectText members text.toList ∧
    Lists "auto_quote_char" (WritesQuote config.quote) (config.quote = standard.quote) members ∧
    Lists "placeholder" (WritesText config.placeholder.name.toList)
      (config.placeholder = standard.placeholder) members

theorem lists_once {name : String} {writes : List Char → Prop} {optional : Prop}
    {members : List Member} {w : List Char} (once : valuesOf name members = [w])
    (written : writes w) : Lists name writes optional members := by
  rw [Lists, once]
  exact written

theorem lists_omitted {name : String} {writes : List Char → Prop} {optional : Prop}
    {members : List Member} (omitted : valuesOf name members = []) (allowed : optional) :
    Lists name writes optional members := by
  rw [Lists, omitted]
  exact allowed

theorem fill_of_lists [JsonLibrary] {α β : Type} {name : String} {shape : Shape β} {get : α → β}
    {set : β → α → α} {rest : Fields α} {members : List Member} {writes : List Char → Prop}
    {optional : Prop} {a : α} {b : β} (lists : Lists name writes optional members)
    (reads : ∀ w, writes w → JsonLibrary.parse shape (String.ofList w) = some b)
    (left : optional → set b a = a) :
    (Fields.cons name shape get set rest).fill members a = rest.fill members (set b a) := by
  rw [Lists] at lists
  rw [Fields.fill]
  rcases found : valuesOf name members with _ | ⟨w, _ | ⟨v, others⟩⟩
  · rw [found] at lists
    rw [left lists]
  · rw [found] at lists
    simp only [reads w lists, Option.bind_eq_bind, Option.bind_some]
  · rw [found] at lists
    exact lists.elim

theorem WritesQuote.scalar {quote : Option Char} {w : List Char} (writes : WritesQuote quote w) :
    IsScalar w := by
  cases quote with
  | none => rw [show w = _ from writes]; exact .null
  | some c => exact WritesText.scalar writes

section

variable [JsonLibrary] (documented : JsonLibrary.Documented)

include documented

theorem snakeCase_ident (p : Placeholder) : JsonLibrary.snakeCase p.ident = p.name := by
  cases p with
  | question =>
    exact documented.snakeCase_word 'Q' ['u', 'e', 's', 't', 'i', 'o', 'n'] rfl (by simp)
  | numbered =>
    exact documented.snakeCase_word 'N' ['u', 'm', 'b', 'e', 'r', 'e', 'd'] rfl (by simp)

theorem writesText_placeholder (p : Placeholder) :
    WritesText p.name.toList (JsonLibrary.print Placeholder.shape p).toList := by
  rw [← snakeCase_ident documented]
  exact documented.print_choice _ _ p

theorem parse_placeholder {p : Placeholder} {w : List Char} (writes : WritesText p.name.toList w) :
    JsonLibrary.parse Placeholder.shape (String.ofList w) = some p := by
  apply documented.parse_choice
  · cases p <;> simp
  · intro q _
    rw [snakeCase_ident documented, snakeCase_ident documented]
    cases q <;> cases p <;> simp [Placeholder.name]
  · rwa [snakeCase_ident documented, String.toList_ofList]

theorem writesQuote_print (quote : Option Char) :
    WritesQuote quote (JsonLibrary.print (.option .char) quote).toList := by
  cases quote with
  | none => rw [documented.print_none]; rfl
  | some c =>
    rw [documented.print_some]
    exact documented.print_char c

theorem parse_quote {quote : Option Char} {w : List Char} (writes : WritesQuote quote w) :
    JsonLibrary.parse (.option .char) (String.ofList w) = some quote := by
  cases quote with
  | none =>
    rw [show w = _ from writes]
    exact documented.parse_null .char
  | some c =>
    have text : WritesText [c] (String.ofList w).toList := by rwa [String.toList_ofList]
    have other : String.ofList w ≠ "null" := by
      rintro same
      obtain ⟨body, -, quoted⟩ := text
      rw [same] at quoted
      simp [inQuotes] at quoted
    rw [documented.parse_other .char _ text.scalar other, documented.parse_char c _ text]
    rfl

theorem parse_of_written {config : Config} {text : String} (written : config.WrittenAs text) :
    parse text = some config := by
  obtain ⟨members, object, quote, placeholder⟩ := written
  rw [parse, shape, documented.parse_record _ _ _ _ (by decide) object, fields,
    fill_of_lists quote (fun w => parse_quote documented) fun same => by rw [same],
    fill_of_lists placeholder (fun w => parse_placeholder documented) fun same => by rw [same],
    Fields.fill]

theorem written_serialize (config : Config) : config.WrittenAs config.serialize := by
  have quote := writesQuote_print documented config.quote
  have placeholder := writesText_placeholder documented config.placeholder
  have object := documented.print_record standard fields config (by
    simpa [Fields.members, fields] using And.intro quote.scalar placeholder.scalar)
  refine ⟨_, object, lists_once ?_ quote, lists_once ?_ placeholder⟩
  · simp [valuesOf, Fields.members, fields]
  · simp [valuesOf, Fields.members, fields]

end

theorem parse_written [JsonLibrary] (documented : JsonLibrary.Documented) (config : Config) :
    parse config.serialize = some config ∧
      ∀ text, config.WrittenAs text → parse text = some config := by
  constructor
  · exact parse_of_written documented (written_serialize documented config)
  · intro text written
    exact parse_of_written documented written

-- A backslash given by number, a member that is not a setting, and no placeholder.
theorem parse_escaped_backslash :
    let config : Config := { quote := some '\\' }
    let text := "\x7b \"x\": -1.5e+3,\n\"auto_quote_char\" : \"\\u005C\"\x7d"
    JsonLibrary.Documented ∧ parse config.serialize = some config ∧ config.WrittenAs text ∧
      parse text = some config := by
  intro config text
  have empty : AreBlanks [] := by simp [AreBlanks]
  have space : AreBlanks [' '] := by simp [AreBlanks]
  have newline : AreBlanks ['\n'] := by simp [AreBlanks]
  have number : IsScalar ['-', '1', '.', '5', 'e', '+', '3'] := .negative (.mk
    (.other (w := []) (by decide) (by simp [AreDigits]))
    (.present (w := ['5']) (by simp) (by simp [AreDigits]))
    (.signed (w := ['3']) (.inl rfl) (.inl rfl) (by simp) (by simp [AreDigits])))
  have unit : HexDigit '0' 0 ∧ HexDigit '5' 5 ∧ HexDigit 'C' 12 := by simp [HexDigit]
  have backslash : WritesText ['\\'] (inQuotes ['\\', 'u', '0', '0', '5', 'C']) :=
    ⟨_, ⟨_, .unit unit.1 unit.1 unit.2.1 unit.2.2 .nil, .unit (c := '\\') (by decide) .nil⟩, rfl⟩
  have first := MemberText.mk (spells_escaped "x".toList) number empty space
  have second := MemberText.mk (spells_escaped "auto_quote_char".toList) backslash.scalar space space
  have object := ObjectText.members (.more first empty newline (.last second)) empty space empty
    empty
  have written : config.WrittenAs text :=
    ⟨_, Eq.subst (motive := ObjectText _) (by decide +kernel) object,
      lists_once (by simp [valuesOf]) backslash, lists_omitted (by simp [valuesOf]) rfl⟩
  obtain ⟨back, texts⟩ := parse_written library_documented config
  exact ⟨library_documented, back, written, texts text written⟩

end SqlClauses.Config
