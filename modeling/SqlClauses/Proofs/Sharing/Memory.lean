import Mathlib.Data.Set.Card
import SqlClauses.Mysql.Session

set_option autoImplicit false

namespace SqlClauses.Mysql

abbrev Registries := (k : Kind) → Registry (Draft k)

structure Memory where
  count : Nat → Nat := fun _ => 0
  content : Nat → Registries := fun _ => clauses
  next : Nat := 0

namespace Memory

def alloc (m : Memory) (r : Registries) : Memory where
  count := Function.update m.count m.next 1
  content := Function.update m.content m.next r
  next := m.next + 1

def retain (m : Memory) (a : Nat) : Memory :=
  { m with count := Function.update m.count a (m.count a + 1) }

def release (m : Memory) : Option Nat → Memory
  | none => m
  | some a => { m with count := Function.update m.count a (m.count a - 1) }

def write (m : Memory) (a : Nat) (r : Registries) : Memory :=
  { m with content := Function.update m.content a r }

@[simp] theorem content_release (m : Memory) (a : Option Nat) :
    (m.release a).content = m.content := by
  cases a <;> rfl

@[simp] theorem next_release (m : Memory) (a : Option Nat) : (m.release a).next = m.next := by
  cases a <;> rfl

theorem count_retain (m : Memory) (a b : Nat) :
    (m.retain a).count b = m.count b + if a = b then 1 else 0 := by
  by_cases same : b = a
  · simp [retain, same]
  · simp [retain, same, Ne.symm same]

theorem count_release (m : Memory) (a : Option Nat) (b : Nat) :
    (m.release a).count b = m.count b - if a = some b then 1 else 0 := by
  cases a with
  | none => rfl
  | some a =>
    by_cases same : b = a
    · simp [release, same]
    · simp [release, same, Ne.symm same]

end Memory

structure Handle where
  config : Config
  address : Nat

structure Held (k : Kind) where
  draft : Draft k
  grammar : Handle

structure Arena where
  memory : Memory := {}
  shared : Option Handle := none
  grammars : String → Option Handle := fun _ => none
  builders : String → Option ((k : Kind) × Held k) := fun _ => none

inductive Owner where
  | shared
  | grammar (name : String)
  | builder (name : String)
deriving DecidableEq

def holders (points : Owner → Option Nat) (a : Nat) : Set Owner := {o | points o = some a}

-- What the counts have to be while one holder is on its way from a cell to its name.
def Counted (points : Owner → Option Nat) (inHand : Option Nat) (count : Nat → Nat) : Prop :=
  ∀ a, (holders points a).encard + (if inHand = some a then 1 else 0) = count a

theorem holders_update_self (points : Owner → Option Nat) (o : Owner) (a : Nat) :
    holders (Function.update points o (some a)) a = insert o (holders points a) := by
  ext x
  by_cases same : x = o <;> simp [holders, same]

theorem holders_update_of_ne (points : Owner → Option Nat) (o : Owner) {a b : Nat} (other : b ≠ a) :
    holders (Function.update points o (some b)) a = holders points a \ {o} := by
  ext x
  by_cases same : x = o <;> simp [holders, same, other]

theorem Counted.retain {points : Owner → Option Nat} {m : Memory}
    (counted : Counted points none m.count) (a : Nat) :
    Counted points (some a) (m.retain a).count := by
  intro b
  have before : (holders points b).encard = m.count b := by simpa using counted b
  rw [Memory.count_retain, before]
  simp

theorem Counted.alloc {points : Owner → Option Nat} {m : Memory}
    (counted : Counted points none m.count) (fresh : m.count m.next = 0) (r : Registries) :
    Counted points (some m.next) (m.alloc r).count := by
  intro b
  have before : (holders points b).encard = m.count b := by simpa using counted b
  rw [before]
  by_cases new : b = m.next
  · simp [Memory.alloc, new, fresh]
  · simp [Memory.alloc, new, Ne.symm new]

theorem Counted.release {points : Owner → Option Nat} {m : Memory} {b : Nat}
    (counted : Counted points (some b) m.count) (o : Owner) :
    Counted (Function.update points o (some b)) none (m.release (points o)).count := by
  intro a
  have before := counted a
  rw [Memory.count_release]
  by_cases new : b = a
  · subst new
    have total : (holders points b).encard + 1 = m.count b := by simpa using before
    rw [holders_update_self]
    by_cases old : points o = some b
    · have member : o ∈ holders points b := old
      rw [Set.insert_eq_of_mem member, if_pos old, ENat.natCast_sub, ← total]
      simp [(ENat.addLECancellable_of_ne_top ENat.one_ne_top).add_tsub_cancel_right]
    · have absent : o ∉ holders points b := old
      rw [Set.encard_insert_of_notMem absent, if_neg old]
      simpa using total
  · have total : (holders points a).encard = m.count a := by simpa [new] using before
    rw [holders_update_of_ne points o new]
    by_cases old : points o = some a
    · have member : o ∈ holders points a := old
      rw [Set.encard_sdiff_singleton_of_mem member, if_pos old, ENat.natCast_sub, ← total]
      simp
    · have absent : o ∉ holders points a := old
      rw [Set.sdiff_singleton_eq_self absent, if_neg old]
      simpa using total

namespace Arena

open Session (put)

def handle (A : Arena) : Owner → Option Handle
  | .shared => A.shared
  | .grammar name => A.grammars name
  | .builder name => (A.builders name).map fun b => b.2.grammar

def address (A : Arena) (o : Owner) : Option Nat := (A.handle o).map Handle.address

def read (A : Arena) (h : Handle) : Grammar := ⟨h.config, A.memory.content h.address⟩

def readBuilder (A : Arena) (b : (k : Kind) × Held k) : (k : Kind) × Builder k :=
  ⟨b.1, b.2.draft, A.read b.2.grammar⟩

def view (A : Arena) : Session where
  grammars name := (A.grammars name).map A.read
  builders name := (A.builders name).map A.readBuilder

def place (A : Arena) (g : Grammar) : Handle × Arena :=
  (⟨g.config, A.memory.next⟩, { A with memory := A.memory.alloc g.registry })

def retain (A : Arena) (h : Handle) : Arena :=
  { A with memory := A.memory.retain h.address }

-- The new holder takes the place of an old one, which lets its cell go.
def holdGrammar (A : Arena) (name : String) (h : Handle) : Arena :=
  { A with
    memory := A.memory.release (A.address (.grammar name))
    grammars := put name h A.grammars }

def holdBuilder (A : Arena) (name : String) (b : (k : Kind) × Held k) : Arena :=
  { A with
    memory := A.memory.release (A.address (.builder name))
    builders := put name b A.builders }

def holdShared (A : Arena) (h : Handle) : Arena :=
  { A with
    memory := A.memory.release (A.address .shared)
    shared := some h }

def unshare (A : Arena) (name : String) (h : Handle) : Handle × Arena :=
  if A.memory.count h.address = 1 then (h, A)
  else
    let (copy, B) := A.place (A.read h)
    (copy, B.holdGrammar name copy)

def write (A : Arena) (h : Handle) (r : Registries) : Arena :=
  { A with memory := A.memory.write h.address r }

-- Counts are exact when those are added that hold a cell and have no name yet.
structure Sound (A : Arena) (inHand : Option Nat) : Prop where
  counted : Counted A.address inHand A.memory.count
  fresh : ∀ a, A.memory.next ≤ a → A.memory.count a = 0
  shared : ∀ h, A.shared = some h → A.read h = .standard

theorem sound_empty : ({} : Arena).Sound none where
  counted a := by
    have nobody : holders ({} : Arena).address a = ∅ := by
      ext o
      cases o <;> simp [holders, address, handle]
    simp [nobody]
  fresh _ _ := rfl
  shared h present := by cases present

variable {A B : Arena} {inHand : Option Nat} {h : Handle}

theorem Sound.address_lt_next (sound : A.Sound inHand) {o : Owner} {a : Nat}
    (held : A.address o = some a) : a < A.memory.next := by
  by_contra beyond
  have counted := sound.counted a
  rw [sound.fresh a (not_lt.mp beyond)] at counted
  have nobody : holders A.address a = ∅ := Set.encard_eq_zero.mp (add_eq_zero.mp counted).1
  exact Set.eq_empty_iff_forall_notMem.mp nobody o held

theorem Sound.sole_holder (sound : A.Sound none) {a : Nat} (single : A.memory.count a = 1)
    {o o' : Owner} (held : A.address o = some a) (other : A.address o' = some a) : o = o' := by
  have counted := sound.counted a
  rw [single] at counted
  obtain ⟨only, all⟩ := Set.encard_eq_one.mp (by simpa using counted)
  have first : o ∈ ({only} : Set Owner) := all ▸ held
  have second : o' ∈ ({only} : Set Owner) := all ▸ other
  rw [Set.mem_singleton_iff.mp first, Set.mem_singleton_iff.mp second]

theorem view_congr (grammars : B.grammars = A.grammars) (builders : B.builders = A.builders)
    (reads : ∀ o h, A.handle o = some h → B.read h = A.read h) : B.view = A.view := by
  unfold view
  congr 1
  · funext name
    rw [grammars]
    exact Option.map_congr fun h held => reads (.grammar name) h held
  · funext name
    rw [builders]
    refine Option.map_congr fun b held => ?_
    have same := reads (.builder name) b.2.grammar (by simp [handle, held])
    rw [readBuilder, readBuilder, same]

theorem Sound.retain (sound : A.Sound none) {o : Owner} (held : A.handle o = some h) :
    (A.retain h).Sound (some h.address) where
  counted := Counted.retain sound.counted h.address
  fresh a beyond := by
    have inside := sound.address_lt_next (o := o) (a := h.address) (by simp [address, held])
    change (A.memory.retain h.address).count a = 0
    rw [Memory.count_retain, sound.fresh a beyond, if_neg]
    rintro rfl
    exact absurd inside (not_lt.mpr beyond)
  shared := sound.shared

theorem address_eq_some {o : Owner} {a : Nat} :
    A.address o = some a ↔ ∃ h, A.handle o = some h ∧ h.address = a := by
  simp [address]

theorem read_place_of_held (sound : A.Sound none) (g : Grammar) {o : Owner}
    (held : A.handle o = some h) : (A.place g).2.read h = A.read h := by
  have inside : h.address < A.memory.next :=
    sound.address_lt_next (address_eq_some.mpr ⟨h, held, rfl⟩)
  simp [read, place, Memory.alloc, Nat.ne_of_lt inside]

theorem read_place (A : Arena) (g : Grammar) : (A.place g).2.read (A.place g).1 = g := by
  simp [read, place, Memory.alloc]

theorem view_place (sound : A.Sound none) (g : Grammar) : (A.place g).2.view = A.view :=
  view_congr rfl rfl fun _ _ held => read_place_of_held sound g held

theorem Sound.place (sound : A.Sound none) (g : Grammar) :
    (A.place g).2.Sound (some (A.place g).1.address) where
  counted := Counted.alloc sound.counted (sound.fresh _ le_rfl) g.registry
  fresh a beyond := by
    change A.memory.next + 1 ≤ a at beyond
    have other : a ≠ A.memory.next := by omega
    simpa [Arena.place, Memory.alloc, other] using sound.fresh a (by omega)
  shared h present := by
    rw [read_place_of_held sound g (o := .shared) present]
    exact sound.shared h present

theorem address_holdGrammar (A : Arena) (name : String) (h : Handle) :
    (A.holdGrammar name h).address =
      Function.update A.address (.grammar name) (some h.address) := by
  funext o
  cases o with
  | grammar other =>
    by_cases same : other = name <;>
      simp [holdGrammar, address, handle, put, same, Function.update]
  | shared | builder => rfl

theorem address_holdBuilder (A : Arena) (name : String) (b : (k : Kind) × Held k) :
    (A.holdBuilder name b).address =
      Function.update A.address (.builder name) (some b.2.grammar.address) := by
  funext o
  cases o with
  | builder other =>
    by_cases same : other = name <;>
      simp [holdBuilder, address, handle, put, same, Function.update]
  | shared | grammar => rfl

theorem address_holdShared (A : Arena) (h : Handle) :
    (A.holdShared h).address = Function.update A.address .shared (some h.address) := by
  funext o
  cases o <;> rfl

theorem read_of_release {o : Option Nat} (memory : B.memory = A.memory.release o) :
    B.read = A.read := by
  funext h
  rw [read, read, memory, Memory.content_release]

theorem Sound.hold {a : Nat} (sound : A.Sound (some a)) (o : Owner)
    (memory : B.memory = A.memory.release (A.address o))
    (address : B.address = Function.update A.address o (some a))
    (shared : ∀ h, B.shared = some h → A.read h = .standard) : B.Sound none where
  counted := by
    rw [memory, address]
    exact Counted.release sound.counted o
  fresh b beyond := by
    rw [memory] at beyond ⊢
    rw [Memory.next_release] at beyond
    rw [Memory.count_release, sound.fresh b beyond, Nat.zero_sub]
  shared h present := by
    rw [read_of_release memory]
    exact shared h present

theorem Sound.holdGrammar (sound : A.Sound (some h.address)) (name : String) :
    (A.holdGrammar name h).Sound none :=
  sound.hold (.grammar name) rfl (address_holdGrammar A name h) sound.shared

theorem Sound.holdBuilder {b : (k : Kind) × Held k} (sound : A.Sound (some b.2.grammar.address))
    (name : String) : (A.holdBuilder name b).Sound none :=
  sound.hold (.builder name) rfl (address_holdBuilder A name b) sound.shared

theorem Sound.holdShared (sound : A.Sound (some h.address)) (standard : A.read h = .standard) :
    (A.holdShared h).Sound none := by
  apply sound.hold .shared rfl (address_holdShared A h)
  intro h' present
  rw [← Option.some.inj present, standard]

theorem readBuilder_congr (reads : B.read = A.read) : B.readBuilder = A.readBuilder := by
  funext b
  rw [readBuilder, readBuilder, reads]

theorem map_put {α β : Type} (f : α → β) (name other : String) (x : α)
    (names : String → Option α) :
    (put name x names other).map f = put name (f x) (fun n => (names n).map f) other := by
  by_cases same : other = name <;> simp [put, same]

theorem view_holdGrammar (A : Arena) (name : String) (h : Handle) :
    (A.holdGrammar name h).view = A.view.putGrammar name (A.read h) := by
  have reads : (A.holdGrammar name h).read = A.read := read_of_release rfl
  unfold view Session.putGrammar
  rw [reads, readBuilder_congr reads]
  congr 1
  funext other
  exact map_put A.read name other h A.grammars

theorem view_holdBuilder (A : Arena) (name : String) (b : (k : Kind) × Held k) :
    (A.holdBuilder name b).view = A.view.putBuilder name (A.readBuilder b) := by
  have reads : (A.holdBuilder name b).read = A.read := read_of_release rfl
  unfold view Session.putBuilder
  rw [reads, readBuilder_congr reads]
  congr 1
  funext other
  exact map_put A.readBuilder name other b A.builders

theorem view_holdShared (A : Arena) (h : Handle) : (A.holdShared h).view = A.view :=
  view_congr rfl rfl fun _ _ _ => by rw [read_of_release rfl]

theorem putGrammar_self {s : Session} {name : String} {g : Grammar}
    (known : s.grammars name = some g) : s.putGrammar name g = s := by
  unfold Session.putGrammar
  congr 1
  funext other
  by_cases same : other = name
  · rw [same, Session.put_self, known]
  · exact Session.put_of_ne g s.grammars same

structure Unshared (A B : Arena) (name : String) (h : Handle) : Prop where
  sound : B.Sound none
  view_eq : B.view = A.view
  shared_eq : B.shared = A.shared
  held : B.grammars name = some h
  single : B.memory.count h.address = 1

theorem unshare_unshared (sound : A.Sound none) {name : String}
    (held : A.grammars name = some h) :
    Unshared A (A.unshare name h).2 name (A.unshare name h).1 := by
  unfold unshare
  split
  · rename_i single
    exact ⟨sound, rfl, rfl, held, single⟩
  · have placed := sound.place (A.read h)
    refine ⟨placed.holdGrammar name, ?_, rfl, Session.put_self .., ?_⟩
    · have known : A.view.grammars name = some (A.read h) := by simp [view, held]
      rw [view_holdGrammar, view_place sound, read_place, putGrammar_self known]
    · -- The cell that is let go is an older one.
      have old : A.address (.grammar name) = some h.address := by simp [address, handle, held]
      have inside := sound.address_lt_next old
      change ((A.memory.alloc _).release (A.address (.grammar name))).count A.memory.next = 1
      rw [Memory.count_release, old]
      simp [Memory.alloc, Nat.ne_of_lt inside]

theorem Unshared.write {name : String} (unshared : Unshared A B name h) (r : Registries) :
    (B.write h r).Sound none ∧
      (B.write h r).view = A.view.putGrammar name ⟨h.config, r⟩ := by
  have held : B.address (.grammar name) = some h.address := by
    simp [address, handle, unshared.held]
  have others {o : Owner} {h' : Handle} (other : o ≠ .grammar name) (known : B.handle o = some h') :
      (B.write h r).read h' = B.read h' := by
    have apart : h'.address ≠ h.address := by
      intro same
      apply other
      apply unshared.sound.sole_holder unshared.single _ held
      exact address_eq_some.mpr ⟨h', known, same⟩
    simp [read, Arena.write, Memory.write, apart]
  constructor
  · constructor
    · exact unshared.sound.counted
    · exact unshared.sound.fresh
    · intro h' present
      rw [others (o := .shared) (by simp) present]
      exact unshared.sound.shared h' present
  · rw [← unshared.view_eq]
    unfold view Session.putGrammar
    congr 1
    · funext other
      by_cases same : other = name
      · subst same
        simp [Arena.write, Memory.write, read, unshared.held]
      · have apart : Owner.grammar other ≠ .grammar name := by simpa using same
        rw [Session.put_of_ne _ _ same]
        exact Option.map_congr fun h' known => others apart known
    · funext other
      refine Option.map_congr fun b known => ?_
      have builder : B.handle (.builder other) = some b.2.grammar := by
        change (B.builders other).map _ = _
        rw [show B.builders other = some b from known]
        rfl
      rw [readBuilder, readBuilder, others (by simp) builder]

end Arena

end SqlClauses.Mysql
