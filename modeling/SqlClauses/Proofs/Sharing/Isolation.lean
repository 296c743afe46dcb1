import SqlClauses.Proofs.Registry.Placement
import SqlClauses.Proofs.Sharing.Memory

set_option autoImplicit false

namespace SqlClauses.Mysql

inductive Call where
  | op (o : Session.Op)
  -- Names a copy of the grammar that the whole program shares.
  | shared (name : String)
  | render (builder : String)

inductive Answer where
  | done
  | rendered (text : String) (p : Prepared)

abbrev Reply := Except Session.Error Answer

def Session.call (s : Session) : Call → Reply × Session
  | .op o =>
    match s.step o with
    | .ok next => (.ok .done, next)
    | .error e => (.error e, s)
  | .shared name => (.ok .done, s.putGrammar name .standard)
  | .render name =>
    match s.builder name with
    | .ok b => (.ok (.rendered b.2.toSql b.2.prepare), s)
    | .error e => (.error e, s)

namespace Session

variable (s : Session) (name : String)

theorem call_copyGrammar (source : String) :
    s.call (.op (.copyGrammar name source)) =
      match s.grammars source with
      | none => (.error (.unknownGrammar source), s)
      | some g => (.ok .done, s.putGrammar name g) := by
  simp only [call, step, grammar]
  cases s.grammars source <;> rfl

theorem call_register (k : Kind) (anchor : String) (c : Clause (Draft k)) :
    s.call (.op (.register name k anchor c)) =
      match s.grammars name with
      | none => (.error (.unknownGrammar name), s)
      | some g =>
        match (g.registry k).insertAfter anchor c with
        | .error e => (.error (.registration e), s)
        | .ok R => (.ok .done, s.putGrammar name (g.replace k R)) := by
  simp only [call, step, grammar]
  cases s.grammars name with
  | none => rfl
  | some g =>
    cases placed : (g.registry k).insertAfter anchor c with
    | error e =>
      have refused : g.register k anchor c = .error e := by rw [Grammar.register, placed]; rfl
      simp only [bind, Except.bind, refused, placed]
      rfl
    | ok R =>
      have extended : g.register k anchor c = .ok (g.replace k R) := by
        rw [Grammar.register, placed]
        rfl
      simp only [bind, Except.bind, extended, placed]
      rfl

theorem call_build (g table : String) (columns : List String) (k : Kind) :
    s.call (.op (.build name g table columns k)) =
      match s.grammars g with
      | none => (.error (.unknownGrammar g), s)
      | some g => (.ok .done, s.putBuilder name ⟨k, g.build table columns k⟩) := by
  simp only [call, step, grammar]
  cases s.grammars g <;> rfl

theorem call_copyBuilder (source : String) :
    s.call (.op (.copyBuilder name source)) =
      match s.builders source with
      | none => (.error (.unknownBuilder source), s)
      | some b => (.ok .done, s.putBuilder name b) := by
  simp only [call, step, builder]
  cases s.builders source <;> rfl

theorem call_edit (k : Kind) (e : Draft.Edit k) :
    s.call (.op (.edit name k e)) =
      match s.builders name with
      | none => (.error (.unknownBuilder name), s)
      | some b =>
        if h : b.1 = k then (.ok .done, s.putBuilder name ⟨k, (h ▸ b.2).edit e⟩)
        else (.error (.otherKind name), s) := by
  simp only [call, step, builder]
  cases s.builders name with
  | none => rfl
  | some b =>
    change (match (if h : b.1 = k then Except.ok (s.putBuilder name ⟨k, (h ▸ b.2).edit e⟩)
        else .error (Error.otherKind name)) with
      | .ok next => (Except.ok Answer.done, next)
      | .error e => (.error e, s)) = _
    by_cases same : b.1 = k <;> simp only [same, dite_true, dite_false]

theorem call_render :
    s.call (.render name) =
      match s.builders name with
      | none => (.error (.unknownBuilder name), s)
      | some b => (.ok (.rendered b.2.toSql b.2.prepare), s) := by
  simp only [call, builder]
  cases s.builders name <;> rfl

end Session

namespace Arena

open Session (put)

def newGrammar (A : Arena) (name : String) (g : Grammar) : Arena :=
  let (h, B) := A.place g
  B.holdGrammar name h

def sharedGrammar (A : Arena) : Handle × Arena :=
  match A.shared with
  | some h => (h, A)
  | none =>
    let (h, B) := A.place .standard
    (h, B.holdShared h)

def copyGrammar (A : Arena) (name : String) (h : Handle) : Arena :=
  (A.retain h).holdGrammar name h

-- A grammar is unshared before it is known whether the clause can be placed, and its cell then holds
-- whatever the call leaves in it.
def register (A : Arena) (name : String) (h : Handle) (k : Kind) (anchor : String)
    (c : Clause (Draft k)) : Reply × Arena :=
  let (h, B) := A.unshare name h
  let contents := B.memory.content h.address
  let left := B.write h (Function.update contents k ((contents k).afterwards anchor c))
  match (contents k).insertAfter anchor c with
  | .error e => (.error (.registration e), left)
  | .ok _ => (.ok .done, left)

def editBuilder (A : Arena) (name : String) {k : Kind} (b : Held k) (e : Draft.Edit k) : Arena :=
  { A with builders := put name ⟨k, { b with draft := b.draft.edit e }⟩ A.builders }

def call (A : Arena) : Call → Reply × Arena
  | .op (.grammar name config) =>
    (.ok .done, A.newGrammar name ((config.map Grammar.withConfig).getD .standard))
  | .op (.copyGrammar name source) =>
    match A.grammars source with
    | none => (.error (.unknownGrammar source), A)
    | some h => (.ok .done, A.copyGrammar name h)
  | .op (.register name k anchor c) =>
    match A.grammars name with
    | none => (.error (.unknownGrammar name), A)
    | some h => A.register name h k anchor c
  | .op (.build name g table columns k) =>
    match A.grammars g with
    | none => (.error (.unknownGrammar g), A)
    | some h => (.ok .done, (A.retain h).holdBuilder name ⟨k, Draft.new table columns k, h⟩)
  | .op (.copyBuilder name source) =>
    match A.builders source with
    | none => (.error (.unknownBuilder source), A)
    | some b => (.ok .done, (A.retain b.2.grammar).holdBuilder name b)
  | .op (.edit name k e) =>
    match A.builders name with
    | none => (.error (.unknownBuilder name), A)
    | some ⟨kind, b⟩ =>
      if h : kind = k then (.ok .done, A.editBuilder name (h ▸ b) e)
      else (.error (.otherKind name), A)
  | .shared name =>
    let (h, B) := A.sharedGrammar
    (.ok .done, B.copyGrammar name h)
  | .render name =>
    match A.builders name with
    | none => (.error (.unknownBuilder name), A)
    | some b =>
      let g := A.read b.2.grammar
      (.ok (.rendered ((g.registry b.1).toSql g.config b.2.draft)
        ((g.registry b.1).prepare g.config b.2.draft)), A)

structure Follows (result : Reply × Arena) (expected : Reply × Session) : Prop where
  sound : result.2.Sound none
  view_eq : result.2.view = expected.2
  reply_eq : result.1 = expected.1

variable {A : Arena}

theorem view_grammars (A : Arena) (name : String) :
    A.view.grammars name = (A.grammars name).map A.read := rfl

theorem view_builders (A : Arena) (name : String) :
    A.view.builders name = (A.builders name).map A.readBuilder := rfl

theorem newGrammar_follows (sound : A.Sound none) (name : String) (g : Grammar) :
    (A.newGrammar name g).Sound none ∧ (A.newGrammar name g).view = A.view.putGrammar name g := by
  constructor
  · exact (sound.place g).holdGrammar name
  · change ((A.place g).2.holdGrammar name (A.place g).1).view = _
    rw [view_holdGrammar, view_place sound, read_place]

theorem copyGrammar_follows (sound : A.Sound none) {o : Owner} {h : Handle}
    (held : A.handle o = some h) (name : String) :
    (A.copyGrammar name h).Sound none ∧
      (A.copyGrammar name h).view = A.view.putGrammar name (A.read h) :=
  ⟨(sound.retain held).holdGrammar name, view_holdGrammar (A.retain h) name h⟩

theorem sharedGrammar_follows (sound : A.Sound none) :
    A.sharedGrammar.2.Sound none ∧ A.sharedGrammar.2.view = A.view ∧
      A.sharedGrammar.2.shared = some A.sharedGrammar.1 := by
  unfold sharedGrammar
  cases present : A.shared with
  | some h => exact ⟨sound, rfl, present⟩
  | none =>
    refine ⟨(sound.place .standard).holdShared (read_place A .standard), ?_, rfl⟩
    rw [view_holdShared, view_place sound]

theorem replace_registry (g : Grammar) (k : Kind) (R : Registry (Draft k)) :
    g.replace k R = ⟨g.config, Function.update g.registry k R⟩ := by
  unfold Grammar.replace
  congr 1
  funext other
  by_cases same : k = other
  · subst same
    simp
  · simp [same, Function.update_of_ne (Ne.symm same)]

theorem register_follows (sound : A.Sound none) {name : String} {h : Handle}
    (held : A.grammars name = some h) (k : Kind) (anchor : String) (c : Clause (Draft k)) :
    Follows (A.register name h k anchor c) (A.view.call (.op (.register name k anchor c))) := by
  have unshared := unshare_unshared sound held
  unfold register
  generalize A.unshare name h = result at unshared
  obtain ⟨h', B⟩ := result
  have known : A.view.grammars name = some (B.read h') := by
    rw [← unshared.view_eq]
    exact congrArg (Option.map B.read) unshared.held
  rw [Session.call_register, known]
  simp only [replace_registry]
  let R := (B.read h').registry k
  let registries := Function.update (B.read h').registry k (R.afterwards anchor c)
  change Follows (match R.insertAfter anchor c with
    | .error e => (.error (.registration e), B.write h' registries)
    | .ok _ => (.ok .done, B.write h' registries)) _
  obtain ⟨kept, seen⟩ := unshared.write registries
  cases answer : R.insertAfter anchor c with
  | error e =>
    have same : registries = (B.read h').registry := by
      simp only [registries, Registry.afterwards_of_error answer, R, Function.update_eq_self]
    rw [same] at kept seen ⊢
    exact ⟨kept, seen.trans (putGrammar_self known), rfl⟩
  | ok next =>
    have extended : registries = Function.update (B.read h').registry k next := by
      simp only [registries, Registry.afterwards_of_ok answer]
    rw [extended] at kept seen ⊢
    exact ⟨kept, seen, rfl⟩

theorem editBuilder_follows (sound : A.Sound none) {name : String} {k : Kind} {b : Held k}
    (held : A.builders name = some ⟨k, b⟩) (e : Draft.Edit k) :
    (A.editBuilder name b e).Sound none ∧
      (A.editBuilder name b e).view =
        A.view.putBuilder name ⟨k, Builder.edit ⟨b.draft, A.read b.grammar⟩ e⟩ := by
  have addresses : (A.editBuilder name b e).address = A.address := by
    funext o
    cases o with
    | builder other =>
      by_cases same : other = name
      · simp [editBuilder, address, handle, same, held]
      · simp [editBuilder, address, handle, put, same]
    | shared | grammar => rfl
  constructor
  · refine ⟨?_, sound.fresh, sound.shared⟩
    rw [addresses]
    exact sound.counted
  · unfold view Session.putBuilder
    congr 1
    funext other
    exact map_put A.readBuilder name other ⟨k, { b with draft := b.draft.edit e }⟩ A.builders

theorem call_follows (sound : A.Sound none) (c : Call) : Follows (A.call c) (A.view.call c) := by
  cases c with
  | op o =>
    cases o with
    | grammar name config =>
      obtain ⟨kept, seen⟩ :=
        newGrammar_follows sound name ((config.map Grammar.withConfig).getD .standard)
      exact ⟨kept, seen, rfl⟩
    | copyGrammar name source =>
      rw [Session.call_copyGrammar]
      simp only [call, view_grammars]
      cases held : A.grammars source with
      | none => exact ⟨sound, rfl, rfl⟩
      | some h =>
        obtain ⟨kept, seen⟩ := copyGrammar_follows sound (o := .grammar source) held name
        exact ⟨kept, seen, rfl⟩
    | register name k anchor c =>
      cases held : A.grammars name with
      | none =>
        rw [Session.call_register]
        simp only [call, view_grammars, held]
        exact ⟨sound, rfl, rfl⟩
      | some h =>
        have registered := register_follows sound held k anchor c
        simpa only [call, held] using registered
    | build name g table columns k =>
      rw [Session.call_build]
      simp only [call, view_grammars]
      cases held : A.grammars g with
      | none => exact ⟨sound, rfl, rfl⟩
      | some h =>
        have kept := (sound.retain (o := .grammar g) held).holdBuilder
          (b := ⟨k, Draft.new table columns k, h⟩) name
        exact ⟨kept, view_holdBuilder .., rfl⟩
    | copyBuilder name source =>
      rw [Session.call_copyBuilder]
      simp only [call, view_builders]
      cases held : A.builders source with
      | none => exact ⟨sound, rfl, rfl⟩
      | some b =>
        have grammar : A.handle (.builder source) = some b.2.grammar := by simp [handle, held]
        exact ⟨(sound.retain grammar).holdBuilder name, view_holdBuilder .., rfl⟩
    | edit name k e =>
      rw [Session.call_edit]
      simp only [call, view_builders]
      cases held : A.builders name with
      | none => exact ⟨sound, rfl, rfl⟩
      | some b =>
        obtain ⟨kind, b⟩ := b
        by_cases same : kind = k
        · subst same
          obtain ⟨kept, seen⟩ := editBuilder_follows sound held e
          simp only [Option.map_some, readBuilder, dite_true]
          exact ⟨kept, seen, rfl⟩
        · simp only [Option.map_some, readBuilder, same, dite_false]
          exact ⟨sound, rfl, rfl⟩
  | shared name =>
    obtain ⟨kept, seen, present⟩ := sharedGrammar_follows sound
    obtain ⟨copied, copy⟩ := copyGrammar_follows kept (o := .shared) present name
    refine ⟨copied, ?_, rfl⟩
    change (A.sharedGrammar.2.copyGrammar name A.sharedGrammar.1).view = _
    rw [copy, seen, kept.shared _ present]
    rfl
  | render name =>
    rw [Session.call_render]
    simp only [call, view_builders]
    cases held : A.builders name with
    | none => exact ⟨sound, rfl, rfl⟩
    | some b => exact ⟨sound, rfl, rfl⟩

theorem shared_register (A : Arena) (name : String) (k : Kind) (anchor : String)
    (c : Clause (Draft k)) :
    (A.call (.op (.register name k anchor c))).2.shared = A.shared := by
  simp only [call]
  cases A.grammars name with
  | none => rfl
  | some h =>
    have kept : (A.unshare name h).2.shared = A.shared := by
      unfold unshare
      split <;> rfl
    rw [← kept]
    simp only [register]
    split <;> rfl

end Arena

def runCalls {S : Type} (step : S → Call → Reply × S) : S → List Call → List Reply × S
  | s, [] => ([], s)
  | s, c :: rest =>
    let later := runCalls step (step s c).2 rest
    ((step s c).1 :: later.1, later.2)

theorem Arena.run_follows {A : Arena} (sound : A.Sound none) (calls : List Call) :
    (runCalls call A calls).2.Sound none ∧
      (runCalls call A calls).2.view = (runCalls Session.call A.view calls).2 ∧
      (runCalls call A calls).1 = (runCalls Session.call A.view calls).1 := by
  induction calls generalizing A with
  | nil => exact ⟨sound, rfl, rfl⟩
  | cons c rest ih =>
    have first := call_follows sound c
    obtain ⟨kept, seen, replies⟩ := ih first.sound
    rw [first.view_eq] at seen replies
    refine ⟨kept, seen, ?_⟩
    simp only [runCalls, first.reply_eq, replies]

theorem Session.call_op (s : Session) (o : Op) : (s.call (.op o)).2 = s.stepOrStay o := by
  simp only [call, stepOrStay]
  cases s.step o <;> rfl

theorem Session.run_ops (s : Session) (ops : List Op) :
    (runCalls call s (ops.map .op)).2 = s.run ops := by
  induction ops generalizing s with
  | nil => rfl
  | cons o rest ih => rw [List.map_cons, runCalls, ih, call_op, run, run, List.foldl_cons]

namespace Call

def Makes (name : String) : Call → Prop
  | .op (.build other _ _ _ _) => other = name
  | .op (.copyBuilder other _) => other = name
  | _ => False

def editOf (name : String) (k : Kind) : Call → Option (Draft.Edit k)
  | .op (.edit other kind e) =>
    if h : kind = k then if other = name then some (h ▸ e) else none else none
  | _ => none

end Call

namespace Session

variable {s : Session} {name : String} {k : Kind} {b : Builder k}

theorem builders_call (present : s.builders name = some ⟨k, b⟩) {c : Call}
    (others : ¬c.Makes name) :
    (s.call c).2.builders name = some ⟨k, (c.editOf name k).toList.foldl Builder.edit b⟩ := by
  have kept (other : String) (x : (k : Kind) × Builder k) (apart : other ≠ name) :
      (s.putBuilder other x).builders name = some ⟨k, b⟩ := by
    rw [← present]
    exact put_of_ne x s.builders (Ne.symm apart)
  cases c with
  | op o =>
    cases o with
    | grammar => exact present
    | copyGrammar other source =>
      rw [call_copyGrammar]
      cases s.grammars source <;> exact present
    | register other k' anchor c =>
      rw [call_register]
      cases s.grammars other with
      | none => exact present
      | some g =>
        dsimp only
        cases (g.registry k').insertAfter anchor c <;> exact present
    | build other g =>
      rw [call_build]
      cases s.grammars g with
      | none => exact present
      | some g => exact kept other _ others
    | copyBuilder other source =>
      rw [call_copyBuilder]
      cases s.builders source with
      | none => exact present
      | some x => exact kept other x others
    | edit other kind e =>
      rw [call_edit]
      by_cases same : other = name
      · subst same
        by_cases kinds : kind = k
        · subst kinds
          simp [present, Call.editOf, putBuilder]
        · simp [present, Call.editOf, kinds, Ne.symm kinds]
      · have idle : Call.editOf name k (.op (.edit other kind e)) = none := by
          simp [Call.editOf, same]
        rw [idle]
        cases s.builders other with
        | none => exact present
        | some x =>
          dsimp only
          split
          · exact kept other _ same
          · exact present
  | shared => exact present
  | render other =>
    rw [call_render]
    cases s.builders other <;> exact present

theorem builders_run (present : s.builders name = some ⟨k, b⟩) {later : List Call}
    (others : ∀ c ∈ later, ¬c.Makes name) :
    (runCalls call s later).2.builders name =
      some ⟨k, (later.filterMap (Call.editOf name k)).foldl Builder.edit b⟩ := by
  induction later generalizing s b with
  | nil => exact present
  | cons c rest ih =>
    have first := builders_call present (others c (by simp))
    have next := ih first fun c member => others c (by simp [member])
    rw [runCalls, next]
    cases edits : c.editOf name k <;> simp [edits]

end Session

def Arena.Registers (A : Arena) (name : String) (k : Kind) (anchor : String)
    (c : Clause (Draft k)) : Prop :=
  let (reply, after) := A.call (.op (.register name k anchor c))
  after.shared.map after.read = A.shared.map A.read ∧
    match reply with
    | .error _ => after.view = A.view
    | .ok _ => ∃ g extended R, A.view.grammars name = some g ∧
        (g.registry k).insertAfter anchor c = .ok R ∧
        after.view.grammars name = some extended ∧ extended.config = g.config ∧
        extended.registry k = R ∧
        (∀ other, other ≠ k → extended.registry other = g.registry other) ∧
        (∀ other, other ≠ name → after.view.grammars other = A.view.grammars other) ∧
        after.view.builders = A.view.builders

structure Arena.Isolates (A : Arena) : Prop where
  shared : ∀ h, A.shared = some h → A.read h = .standard
  registered : ∀ name k anchor c, A.Registers name k anchor c
  made : ∀ name g table columns k grammar, A.view.grammars g = some grammar →
    (A.call (.op (.build name g table columns k))).2.view.builders name =
      some ⟨k, grammar.build table columns k⟩
  copied : ∀ name source b, A.view.builders source = some b →
    (A.call (.op (.copyBuilder name source))).2.view.builders name = some b
  -- Later calls change a builder by its own edits alone, unless they make another one in its place.
  kept : ∀ name k (b : Builder k) later, A.view.builders name = some ⟨k, b⟩ →
    (∀ c ∈ later, ¬c.Makes name) →
      let edited := (later.filterMap (Call.editOf name k)).foldl Builder.edit b
      let after := (runCalls call A later).2
      after.view.builders name = some ⟨k, edited⟩ ∧
        (after.call (.render name)).1 = .ok (.rendered edited.toSql edited.prepare)

theorem Arena.registers (A : Arena) (sound : A.Sound none) (name : String) (k : Kind)
    (anchor : String) (c : Clause (Draft k)) : A.Registers name k anchor c := by
  have follows := call_follows sound (.op (.register name k anchor c))
  have kept := shared_register A name k anchor c
  unfold Registers
  generalize A.call (.op (.register name k anchor c)) = result at follows kept
  obtain ⟨reply, after⟩ := result
  obtain ⟨soundAfter, seen, answered⟩ := follows
  simp only at kept seen answered soundAfter
  dsimp only
  constructor
  · rw [kept]
    apply Option.map_congr
    intro h present
    rw [sound.shared h present, soundAfter.shared h (kept.trans present)]
  · rw [Session.call_register] at seen answered
    cases known : A.view.grammars name with
    | none =>
      rw [known] at seen answered
      rw [answered]
      exact seen
    | some g =>
      rw [known] at seen answered
      dsimp only at seen answered
      cases placed : (g.registry k).insertAfter anchor c with
      | error e =>
        rw [placed] at seen answered
        rw [answered]
        exact seen
      | ok R =>
        rw [placed] at seen answered
        rw [answered]
        refine ⟨g, g.replace k R, R, rfl, placed, ?_, rfl, g.registry_replace_self k R, ?_, ?_, ?_⟩
        · rw [seen]
          exact Session.put_self ..
        · exact fun other apart => g.registry_replace_of_ne R (Ne.symm apart)
        · intro other apart
          rw [seen]
          exact Session.put_of_ne _ _ apart
        · rw [seen]
          rfl

theorem Arena.isolates {A : Arena} (sound : A.Sound none) : A.Isolates where
  shared := sound.shared
  registered := A.registers sound
  made name g table columns k grammar known := by
    rw [(call_follows sound _).view_eq, Session.call_build, known]
    exact Session.put_self ..
  copied name source b known := by
    rw [(call_follows sound _).view_eq, Session.call_copyBuilder, known]
    exact Session.put_self ..
  kept name k b later present others := by
    intro edited after
    obtain ⟨soundAfter, seen, -⟩ := run_follows sound later
    have builder : after.view.builders name = some ⟨k, edited⟩ := by
      rw [seen]
      exact Session.builders_run present others
    refine ⟨builder, ?_⟩
    rw [(call_follows soundAfter (.render name)).reply_eq, Session.call_render, builder]

theorem registrations_stay_with_their_grammar (calls : List Call) :
    let (replies, A) := runCalls Arena.call {} calls
    (replies, A.view) = runCalls Session.call {} calls ∧ A.Isolates ∧
      ∀ ops, (runCalls Arena.call {} (ops.map .op)).2.view = Session.run {} ops := by
  obtain ⟨sound, seen, replied⟩ := Arena.run_follows Arena.sound_empty calls
  refine ⟨Prod.ext replied seen, Arena.isolates sound, fun ops => ?_⟩
  obtain ⟨-, seen, -⟩ := Arena.run_follows Arena.sound_empty (ops.map .op)
  rw [seen]
  exact Session.run_ops {} ops

end SqlClauses.Mysql
