import SqlClauses.Proofs.Json.Entries
import SqlClauses.Proofs.Mysql.Extension

set_option autoImplicit false

namespace SqlClauses

open Json

namespace UpdateColumn

structure AmountsTo (m : String → Option String) (update : UpdateColumn) : Prop where
  one : ∀ column expr, m = only column expr → update = .assign column expr
  other : (∀ column expr, m ≠ only column expr) → update = .skip

theorem AmountsTo.unique {m : String → Option String} {first second : UpdateColumn}
    (amounts : AmountsTo m first) (again : AmountsTo m second) : first = second := by
  by_cases single : ∃ column expr, m = only column expr
  · obtain ⟨column, expr, single⟩ := single
    exact (amounts.one _ _ single).trans (again.one _ _ single).symm
  · have several : ∀ column expr, m ≠ only column expr := by simpa using single
    exact (amounts.other several).trans (again.other several).symm

theorem ofPairs_of_ne_singleton {pairs : List (String × String)}
    (several : ∀ column expr, pairs ≠ [(column, expr)]) : ofPairs pairs = .skip := by
  rcases pairs with _ | ⟨⟨column, expr⟩, _ | ⟨next, rest⟩⟩
  · rfl
  · exact absurd rfl (several column expr)
  · rfl

theorem amountsTo_ofPairs {pairs : List (String × String)} {m : String → Option String}
    (traverses : Traverses pairs m) : AmountsTo m (ofPairs pairs) where
  one column expr single := by
    rw [(traverses.eq_singleton_iff column expr).mpr single]
    rfl
  other several := ofPairs_of_ne_singleton fun column expr single =>
    several column expr ((traverses.eq_singleton_iff column expr).mp single)

theorem AmountsTo.exists (m : String → Option String) : ∃ update, AmountsTo m update := by
  by_cases single : ∃ column expr, m = only column expr
  · obtain ⟨column, expr, rfl⟩ := single
    exact ⟨.assign column expr, amountsTo_ofPairs (traverses_only column expr)⟩
  · have several : ∀ column expr, m ≠ only column expr := by simpa using single
    exact ⟨.skip, fun column expr same => absurd same (several column expr), fun _ => rfl⟩

theorem amountsTo_ofEntries (entries : List (String × String)) :
    AmountsTo (gathered entries) (ofEntries entries) :=
  amountsTo_ofPairs (traverses_lastOfEqual entries)

def stringObject (entries : List (String × String)) : Json :=
  .object (entries.map (Prod.map some fun expr => .string (some expr)))

theorem ofJson_stringObject (entries : List (String × String)) :
    ofJson (stringObject entries) = ofEntries entries := by
  have kept : (lastOfEqual entries).filterMap
      (pairOfJson ∘ Prod.map some fun expr => .string (some expr)) = lastOfEqual entries :=
    List.filterMap_some
  rw [stringObject, ofJson, lastOfEqual_map _ fun _ _ => Option.some.inj, List.length_map,
    List.filterMap_map, kept, ofEntries]
  split
  case isTrue => rfl
  case isFalse several =>
    refine (ofPairs_of_ne_singleton fun column expr single => several ?_).symm
    rw [single, List.length_singleton]

inductive Entry where
  | column (name : String)
  | map (m : String → Option String)

inductive Typed : Entry → UpdateColumn → Prop where
  | column (name : String) : Typed (.column name) (.values name)
  | pair (column expr : String) : Typed (.map (only column expr)) (.assign column expr)
  | pairs {m : String → Option String} {pairs : List (String × String)} :
    Traverses pairs m → Typed (.map m) (ofPairs pairs)
  | entries {m : String → Option String} {entries : List (String × String)} :
    gathered entries = m → Typed (.map m) (ofEntries entries)

inductive Written : Entry → Json → Prop where
  | column (name : String) : Written (.column name) (.string (some name))
  | object {m : String → Option String} {entries : List (String × String)} :
    gathered entries = m → Written (.map m) (stringObject entries)

theorem Typed.amountsTo {m : String → Option String} {update : UpdateColumn}
    (typed : Typed (.map m) update) : AmountsTo m update := by
  cases typed with
  | pair column expr => exact amountsTo_ofPairs (traverses_only column expr)
  | pairs traverses => exact amountsTo_ofPairs traverses
  | entries same => exact same ▸ amountsTo_ofEntries _

theorem ofJson_of_written {entry : Entry} {update : UpdateColumn} {item : Json}
    (typed : Typed entry update) (written : Written entry item) : ofJson item = update := by
  cases written with
  | column name =>
    cases typed
    rfl
  | object same =>
    rw [ofJson_stringObject]
    exact (same ▸ amountsTo_ofEntries _).unique typed.amountsTo

theorem map_ofJson_of_written {given : List Entry} {typed : List UpdateColumn}
    {items : List Json} (typing : List.Forall₂ Typed given typed)
    (writing : List.Forall₂ Written given items) : items.map ofJson = typed := by
  induction typing generalizing items with
  | nil =>
    cases writing
    rfl
  | cons first _ ih =>
    cases writing with
    | cons written rest => rw [List.map_cons, ofJson_of_written first written, ih rest]

@[simp] theorem text_values (config : Config) (column : String) :
    (values column).text config =
      if column = "" then none
      else some (config.column column ++ " = VALUES(" ++ config.column column ++ ")") := by
  rfl

@[simp] theorem text_assign (config : Config) (column expr : String) :
    (assign column expr).text config = some (config.column column ++ " = " ++ expr) := by
  rfl

def assignments (config : Config) (items : List Json) : List String :=
  items.filterMap fun item => (ofJson item).text config

inductive Assigns (config : Config) : Json → String → Prop where
  | column {name : String} : name ≠ "" →
    Assigns config (.string (some name))
      (config.column name ++ " = VALUES(" ++ config.column name ++ ")")
  | text {members : List (Option String × Json)} {column expr : String} :
    gathered members = only (some column) (.string (some expr)) →
      Assigns config (.object members) (config.column column ++ " = " ++ expr)
  | number {members : List (Option String × Json)} {column expr : String} :
    gathered members = only (some column) (.number (some expr)) →
      Assigns config (.object members) (config.column column ++ " = " ++ expr)

theorem pairOfJson_eq_some_iff (key : Option String) (value : Json) (column expr : String) :
    pairOfJson (key, value) = some (column, expr) ↔
      key = some column ∧
        (value = .string (some expr) ∨ value = .number (some expr)) := by
  constructor
  · intro pair
    unfold pairOfJson at pair
    split at pair
    · simp_all
    · simp_all
    · cases pair
  · rintro ⟨rfl, rfl | rfl⟩ <;> rfl

theorem ofJson_of_only {members : List (Option String × Json)} {key : Option String}
    {value : Json} (single : gathered members = only key value) :
    ofJson (.object members) = ofPairs (pairOfJson (key, value)).toList := by
  have kept := ((traverses_lastOfEqual members).eq_singleton_iff key value).mpr single
  rw [ofJson, kept, List.filterMap_cons, List.filterMap_nil]
  cases pairOfJson (key, value) <;> rfl

theorem ofJson_of_ne_only {members : List (Option String × Json)}
    (several : ∀ key value, gathered members ≠ only key value) :
    ofJson (.object members) = .skip := by
  rw [ofJson, if_neg]
  intro one
  obtain ⟨⟨key, value⟩, kept⟩ := List.length_eq_one_iff.mp one
  exact several key value (((traverses_lastOfEqual members).eq_singleton_iff key value).mp kept)

theorem text_ofJson_of_assigns {config : Config} {item : Json} {written : String}
    (assigns : Assigns config item written) : (ofJson item).text config = some written := by
  cases assigns with
  | column named => simp [ofJson, named]
  | @text members column expr single =>
    rw [ofJson_of_only single]
    exact text_assign config column expr
  | @number members column expr single =>
    rw [ofJson_of_only single]
    exact text_assign config column expr

theorem assigns_of_text_ofJson {config : Config} {item : Json} {written : String}
    (produced : (ofJson item).text config = some written) : Assigns config item written := by
  cases item with
  | null | bool _ | number _ | array _ => cases produced
  | string name =>
    cases name with
    | none => cases produced
    | some name =>
      by_cases named : name = ""
      · simp [ofJson, named] at produced
      · simp only [ofJson, text_values, if_neg named, Option.some.injEq] at produced
        exact produced ▸ .column named
  | object members =>
    by_cases single : ∃ key value, gathered members = only key value
    case pos =>
      obtain ⟨key, value, single⟩ := single
      rw [ofJson_of_only single] at produced
      cases pair : pairOfJson (key, value) with
      | none =>
        rw [pair] at produced
        cases produced
      | some entry =>
        obtain ⟨column, expr⟩ := entry
        have shown : config.column column ++ " = " ++ expr = written := by
          rw [pair] at produced
          exact Option.some.inj ((text_assign config column expr).symm.trans produced)
        obtain ⟨rfl, rfl | rfl⟩ := (pairOfJson_eq_some_iff _ _ _ _).mp pair
        · exact shown ▸ .text single
        · exact shown ▸ .number single
    case neg =>
      rw [ofJson_of_ne_only (by simpa using single)] at produced
      cases produced

theorem text_ofJson_iff (config : Config) (item : Json) (written : String) :
    (ofJson item).text config = some written ↔ Assigns config item written :=
  ⟨assigns_of_text_ofJson, text_ofJson_of_assigns⟩

end UpdateColumn

namespace Clause

def updatesText : List String → Option String
  | [] => none
  | texts => some ("ON DUPLICATE KEY UPDATE " ++ ", ".intercalate texts)

theorem updatesText_eq_none_iff (texts : List String) : updatesText texts = none ↔ texts = [] := by
  cases texts <;> simp [updatesText]

theorem run_upsert {S : Type} [HasUpsert S] (s : S) (cx : Context) :
    Render.runFrom (upsert.renderer s) cx =
      ((HasUpsert.updates s).bind fun entries =>
        updatesText (entries.filterMap (UpdateColumn.text cx.config)), cx) := by
  cases given : HasUpsert.updates s with
  | none => simp [upsert, Render.runFrom, given]
  | some entries =>
    cases written : entries.filterMap (UpdateColumn.text cx.config) with
    | nil => simp [upsert, Render.runFrom, given, written, updatesText]
    | cons text rest => simp [upsert, Render.runFrom, given, written, updatesText]

end Clause

namespace Mysql

open UpdateColumn

def onDuplicate (d : Draft .insert) (cx : Context) : Option String × Context :=
  Render.runFrom (Clause.upsert.renderer d) cx

theorem onDuplicate_updates (d : Draft .insert) (cx : Context) :
    onDuplicate d cx =
      (d.extra.updates.bind fun entries =>
        Clause.updatesText (entries.filterMap (UpdateColumn.text cx.config)), cx) :=
  Clause.run_upsert d cx

theorem onDuplicate_updatesJson (d : Draft .insert) (cx : Context) (items : List Json) :
    onDuplicate (d.edit (.extra (.updatesJson (.array items)))) cx =
      (Clause.updatesText (assignments cx.config items), cx) := by
  have stored : (d.edit (.extra (.updatesJson (.array items)))).extra.updates =
      some (items.map ofJson) := rfl
  rw [onDuplicate_updates, stored, Option.bind_some, List.filterMap_map]
  rfl

theorem absent_iff_none_assigns (config : Config) (items : List Json) :
    Clause.updatesText (assignments config items) = none ↔
      ∀ item ∈ items, ∀ text, ¬ Assigns config item text := by
  rw [Clause.updatesText_eq_none_iff, assignments, List.filterMap_eq_nil_iff]
  refine forall₂_congr fun item _ => ?_
  rw [Option.eq_none_iff_forall_not_mem]
  exact forall_congr' fun text => not_congr (text_ofJson_iff config item text)

theorem updates_of_not_array (d : Draft .insert) {json : Json}
    (other : ∀ items, json ≠ .array items) :
    (d.edit (.extra (.updatesJson json))).extra.updates = none := by
  cases json with
  | array items => exact absurd rfl (other items)
  | _ => rfl

theorem upsert_inputs_agree :
    (∀ m : String → Option String, ∃ update, AmountsTo m update ∧
      (∀ pairs, Traverses pairs m → ofPairs pairs = update) ∧
      ∀ entries, gathered entries = m →
        ofEntries entries = update ∧ ofJson (stringObject entries) = update) ∧
    (∀ (d : Draft .insert) (given : List Entry) (typed : List UpdateColumn) (items : List Json),
      List.Forall₂ Typed given typed → List.Forall₂ Written given items →
        (d.edit (.extra (.updates typed))).extra.updates = some typed ∧
          d.edit (.extra (.updatesJson (.array items))) = d.edit (.extra (.updates typed))) ∧
    (∀ (config : Config) (item : Json) (text : String),
      (ofJson item).text config = some text ↔ Assigns config item text) ∧
    (∀ (d : Draft .insert) (items : List Json) (cx : Context),
      onDuplicate (d.edit (.extra (.updatesJson (.array items)))) cx =
          (Clause.updatesText (assignments cx.config items), cx) ∧
        (Clause.updatesText (assignments cx.config items) = none ↔
          ∀ item ∈ items, ∀ text, ¬ Assigns cx.config item text)) ∧
    ∀ (d : Draft .insert) (json : Json) (cx : Context), (∀ items, json ≠ .array items) →
      (d.edit (.extra (.updatesJson json))).extra.updates = none ∧
        onDuplicate (d.edit (.extra (.updatesJson json))) cx = (none, cx) := by
  refine ⟨?maps, ?lists, text_ofJson_iff, ?arrays, ?others⟩
  case maps =>
    intro m
    obtain ⟨update, amounts⟩ := AmountsTo.exists m
    refine ⟨update, amounts, fun pairs traverses => ?_, ?_⟩
    · exact (amountsTo_ofPairs traverses).unique amounts
    · rintro entries rfl
      rw [ofJson_stringObject]
      have same := (amountsTo_ofEntries entries).unique amounts
      exact ⟨same, same⟩
  case lists =>
    intro d given typed items typing writing
    refine ⟨rfl, ?_⟩
    have list : listOfJson (.array items) = some typed :=
      congrArg some (map_ofJson_of_written typing writing)
    change Draft.mk d.base { d.extra with updates := listOfJson (.array items) } = _
    rw [list]
    rfl
  case arrays =>
    intro d items cx
    exact ⟨onDuplicate_updatesJson d cx items, absent_iff_none_assigns cx.config items⟩
  case others =>
    intro d json cx other
    have cleared := updates_of_not_array d other
    rw [onDuplicate_updates, cleared]
    exact ⟨rfl, rfl⟩

theorem mixed_list_agrees :
    let d : Draft .insert := ⟨{ table := "t" }, { ignored := true }⟩
    let cx := Context.parameterized Dialect.mysql.config
    let many := gathered [("a", "1"), ("b", "2")]
    let typed : List UpdateColumn := [.values "order", ofPairs [("b", "2"), ("a", "1")],
      .ofEntries [("n", "0"), ("n", "n + 1")], .assign "k" "now()", .values ""]
    let items : List Json := [.string (some "order"), stringObject [("a", "1"), ("b", "2")],
      stringObject [("n", "n + 1")], stringObject [("k", "now()")], .string (some "")]
    Traverses [("b", "2"), ("a", "1")] many ∧
      ofPairs [("b", "2"), ("a", "1")] = ofJson (stringObject [("a", "1"), ("b", "2")]) ∧
      d.edit (.extra (.updatesJson (.array items))) = d.edit (.extra (.updates typed)) ∧
      onDuplicate (d.edit (.extra (.updates typed))) cx =
        (some ("ON DUPLICATE KEY UPDATE \x60order\x60 = VALUES(\x60order\x60), n = n + 1, " ++
          "k = now()"), cx) ∧
      onDuplicate (d.edit (.extra (.updatesJson (.string (some "order"))))) cx = (none, cx) := by
  intro d cx many typed items
  obtain ⟨maps, lists, -, arrays, others⟩ := upsert_inputs_agree
  have kept : lastOfEqual [("a", "1"), ("b", "2")] = [("a", "1"), ("b", "2")] := by decide
  have traverses : Traverses [("b", "2"), ("a", "1")] many := by
    refine ⟨by decide, fun key value => ?_⟩
    rw [← (traverses_lastOfEqual _).entries, kept]
    simp [or_comm]
  have again : gathered [("n", "n + 1")] = gathered [("n", "0"), ("n", "n + 1")] := by
    simp [gathered, gatheredInto]
  have agree := lists d
    [.column "order", .map many, .map (gathered [("n", "0"), ("n", "n + 1")]),
      .map (only "k" "now()"), .column ""] typed items
    (.cons (.column "order") (.cons (.pairs traverses) (.cons (.entries rfl)
      (.cons (.pair "k" "now()") (.cons (.column "") .nil)))))
    (.cons (.column "order") (.cons (.object rfl) (.cons (.object again)
      (.cons (.object rfl) (.cons (.column "") .nil)))))
  have written := (arrays d items cx).1
  have other := (others d (.string (some "order")) cx (fun _ same => by cases same)).2
  obtain ⟨update, -, passed, gathers⟩ := maps many
  refine ⟨traverses, (passed _ traverses).trans (gathers _ rfl).2.symm, agree.2, ?_, other⟩
  rw [← agree.2, written]
  refine congrArg (fun text => (some text, cx)) ?_
  decide +kernel

end Mysql

end SqlClauses
