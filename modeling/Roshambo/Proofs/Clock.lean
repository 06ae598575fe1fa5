import Mathlib.Data.List.Chain
import Roshambo.Proofs.Restarts

/-! The time of a block is kept exactly as long as the node is open, and in whole milliseconds after that. -/

namespace Roshambo

inductive Happening
  | block (time : Instant) (submission : Submission)
  | reopening
  deriving DecidableEq

namespace Happening

def blocks (config : NodeConfig) : List Happening → Node → List Block
  | [], _ => []
  | block time submission :: rest, node =>
    match submission.deliver time node with
    | .ok header next => header :: blocks config rest next
    | .error _ next => blocks config rest next
  | reopening :: rest, node =>
    match Node.restore config node.database with
    | .ok next => blocks config rest next
    | .error _ => []

def IsTimed : Happening → Prop
  | block time _ => time.IsWhole
  | reopening => True

instance : DecidablePred IsTimed
  | block time _ => inferInstanceAs (Decidable time.IsWhole)
  | reopening => isTrue trivial

end Happening

namespace Block

structure Precedes (block next : Block) : Prop where
  height : next.height = block.height + 1
  time : block.time ≤ next.time

structure RoughlyPrecedes (block next : Block) : Prop where
  height : next.height = block.height + 1
  time : block.time ≤ next.time ∨
    ∃ rounded, Instant.ofMillis? block.time.millis = some rounded ∧ rounded ≤ next.time

variable {block next : Block}

lemma RoughlyPrecedes.of_whole (h : block.RoughlyPrecedes next) (whole : block.time.IsWhole) : block.Precedes next := by
  refine ⟨h.height, h.time.elim id fun ⟨rounded, hrounded, hle⟩ => ?_⟩
  rw [Instant.ofMillis?_whole whole] at hrounded
  rwa [Option.some.inj hrounded]

end Block

lemma Database.loadClock_eq_ok {db : Database} {block : Block} {last : Option Block}
    (stored : db.clock = some (clockRow block)) (h : db.loadClock = .ok last) :
    ∃ time, Instant.ofMillis? block.time.millis = some time ∧ last = some ⟨block.height, time⟩ := by
  have hsave : db.saveClock block = db := by rw [saveClock, ← stored]
  cases htime : Instant.ofMillis? block.time.millis with
  | some time =>
    rw [← hsave, loadClock_saveClock db htime] at h
    exact ⟨time, rfl, (Except.ok.inj h).symm⟩
  | none =>
    simp only [loadClock, stored, clockRow, Instant.toInt_millis, htime] at h
    cases h

namespace Node

variable {config : NodeConfig} {node next : Node} {block : Block} {time : Instant} {submission : Submission}

structure Continues (config : NodeConfig) (block : Block) (node : Node) : Prop extends Sound config node where
  height : node.last.height = block.height
  time : node.last.time = block.time ∨ Instant.ofMillis? block.time.millis = some node.last.time
  stored : node.database.clock = some (Database.clockRow block)

lemma Sound.of_refused (sound : Sound config node) {e : Failure} (h : submission.deliver time node = .error e next) :
    next = node := by
  rcases sound.submit time submission with ⟨_, h'⟩ | ⟨_, _, _, _, _, _, _, h'⟩ <;> rw [h'] at h <;> cases h
  rfl

lemma Sound.of_accepted (sound : Sound config node) (h : submission.deliver time node = .ok block next) :
    node.last.Precedes block ∧ next.last = block ∧ block.time = time ∧ Continues config block next := by
  rcases sound.submit time submission with ⟨_, h'⟩ | ⟨_, ledger, state, hnext, hsteps, _, _, h'⟩ <;> rw [h'] at h <;>
    cases h
  obtain ⟨hle, hheight, htime⟩ := Block.next_eq_ok hnext
  refine ⟨⟨hheight, htime ▸ hle⟩, rfl, htime, ?_⟩
  exact
    { toSound := sound.of_akin block hsteps.akin hsteps.grows (hsteps.params_valid sound.params)
        (hsteps.wellFormed sound.wellFormed) _
      height := rfl, time := Or.inl rfl, stored := rfl }

lemma Continues.reopen (continues : Continues config block node) (h : restore config node.database = .ok next) :
    Continues config block next := by
  have found := restore_eq_ok_iff.mp h
  obtain ⟨last, hload, hlast⟩ := found.clock
  obtain ⟨time, htime, rfl⟩ := Database.loadClock_eq_ok continues.stored hload
  rw [Option.getD_some] at hlast
  refine { toSound := sound_of_restore h, height := ?height, time := Or.inr ?time, stored := ?stored }
  case height => rw [← hlast]
  case time => rw [htime, ← hlast]
  case stored =>
    rw [found.database]
    exact continues.stored

lemma Continues.precedes (continues : Continues config block node) {header : Block}
    (h : node.last.Precedes header) : block.RoughlyPrecedes header := by
  refine ⟨continues.height ▸ h.height, continues.time.imp (fun htime => ?_) fun htime => ⟨_, htime, h.time⟩⟩
  rw [← htime]
  exact h.time

end Node

namespace Happening

variable {config : NodeConfig} {node : Node} {happenings : List Happening}

lemma blocks_cons (sound : node.Sound config) (happening : Happening) (rest : List Happening) :
    (∃ header next, node.last.Precedes header ∧ next.last = header ∧ next.Continues config header ∧
      (happening.IsTimed → header.time.IsWhole) ∧
      blocks config (happening :: rest) node = header :: blocks config rest next) ∨
    blocks config (happening :: rest) node = blocks config rest node ∨
    (∃ next, happening = reopening ∧ Node.restore config node.database = .ok next ∧
      blocks config (happening :: rest) node = blocks config rest next) ∨
    blocks config (happening :: rest) node = [] := by
  cases happening with
  | block time submission =>
    rw [blocks]
    cases hdeliver : submission.deliver time node with
    | ok header next =>
      obtain ⟨hprecedes, hlast, htime, hnext⟩ := sound.of_accepted hdeliver
      exact Or.inl ⟨header, next, hprecedes, hlast, hnext, fun whole => htime ▸ whole, rfl⟩
    | error e next =>
      obtain rfl := sound.of_refused hdeliver
      exact Or.inr (Or.inl rfl)
  | reopening =>
    rw [blocks]
    cases hrestore : Node.restore config node.database with
    | ok next => exact Or.inr (Or.inr (Or.inl ⟨next, rfl, rfl, rfl⟩))
    | error e => exact Or.inr (Or.inr (Or.inr rfl))

lemma isChain_of_continues {last : Block} (continues : node.Continues config last) :
    (last :: blocks config happenings node).IsChain Block.RoughlyPrecedes := by
  -- The stored clock stays that of the last block, so it is rounded once, however often the node is opened again.
  induction happenings generalizing node last with
  | nil => exact .singleton last
  | cons happening rest ih =>
    rcases blocks_cons continues.toSound happening rest with
      ⟨header, next, hprecedes, _, hnext, _, h⟩ | h | ⟨next, _, hrestore, h⟩ | h <;> rw [h]
    · exact .cons_cons (continues.precedes hprecedes) (ih hnext)
    · exact ih continues
    · exact ih (continues.reopen hrestore)
    · exact .singleton last

lemma isChain_blocks (sound : node.Sound config) :
    (blocks config happenings node).IsChain Block.RoughlyPrecedes := by
  induction happenings generalizing node with
  | nil => exact .nil
  | cons happening rest ih =>
    rcases blocks_cons sound happening rest with
      ⟨header, next, _, _, hnext, _, h⟩ | h | ⟨next, _, hrestore, h⟩ | h <;> rw [h]
    · exact isChain_of_continues hnext
    · exact ih sound
    · exact ih (Node.sound_of_restore hrestore)
    · exact .nil

lemma isChain_of_open (sound : node.Sound config) (hopen : ∀ h ∈ happenings, h ≠ reopening) :
    (node.last :: blocks config happenings node).IsChain Block.Precedes := by
  induction happenings generalizing node with
  | nil => exact .singleton _
  | cons happening rest ih =>
    obtain ⟨hfirst, hrest⟩ := List.forall_mem_cons.mp hopen
    rcases blocks_cons sound happening rest with
      ⟨header, next, hprecedes, hlast, hnext, _, h⟩ | h | ⟨_, hreopening, _⟩ | h
    · rw [h]
      exact .cons_cons hprecedes (hlast ▸ ih hnext.toSound hrest)
    · rw [h]
      exact ih sound hrest
    · exact absurd hreopening hfirst
    · rw [h]
      exact .singleton _

lemma isWhole_of_mem_blocks (sound : node.Sound config) (timed : ∀ h ∈ happenings, h.IsTimed) {header : Block}
    (hmem : header ∈ blocks config happenings node) : header.time.IsWhole := by
  induction happenings generalizing node with
  | nil => cases hmem
  | cons happening rest ih =>
    obtain ⟨hfirst, hrest⟩ := List.forall_mem_cons.mp timed
    rcases blocks_cons sound happening rest with
      ⟨header', next, _, _, hnext, hwhole, h⟩ | h | ⟨next, _, hrestore, h⟩ | h <;> rw [h] at hmem
    · rcases List.mem_cons.mp hmem with rfl | hmem
      · exact hwhole hfirst
      · exact ih hnext.toSound hrest hmem
    · exact ih sound hrest hmem
    · exact ih (Node.sound_of_restore hrestore) hrest hmem
    · cases hmem

end Happening

/-- The blocks of a ledger have consecutive heights. None is earlier than the one before it, as long as the node stays
open or all times are whole milliseconds; otherwise none is earlier than the whole milliseconds of the one before. -/
theorem Happening.blocks_in_order {config : NodeConfig} {database : Database} {node : Node}
    (opened : Node.restore config database = .ok node) (happenings : List Happening) :
    (blocks config happenings node).IsChain Block.RoughlyPrecedes ∧
    ((∀ h ∈ happenings, h ≠ .reopening) → (node.last :: blocks config happenings node).IsChain Block.Precedes) ∧
    ((∀ h ∈ happenings, h.IsTimed) → (blocks config happenings node).IsChain Block.Precedes) := by
  have sound := Node.sound_of_restore opened
  refine ⟨isChain_blocks sound, isChain_of_open sound, fun timed => ?_⟩
  refine (isChain_blocks sound).imp_of_mem_imp fun block next hblock _ hnext => ?_
  exact hnext.of_whole (isWhole_of_mem_blocks sound timed hblock)

namespace Sample

def blinks : List Happening :=
  [.block ⟨100, 500000, by decide, by decide⟩ .nothing, .reopening, .block ⟨100, 200000, by decide, by decide⟩ .nothing]

lemma blocks_blinks : Happening.blocks .initial blinks opened =
    [⟨1, ⟨100, 500000, by decide, by decide⟩⟩, ⟨2, ⟨100, 200000, by decide, by decide⟩⟩] := by
  decide +kernel

end Sample

theorem Happening.blocks_in_order_opened :
    (blocks .initial Sample.blinks Sample.opened).IsChain Block.RoughlyPrecedes ∧
    (Sample.opened.last :: blocks .initial
      [.block ⟨100, 500000, by decide, by decide⟩ .nothing, .block ⟨100, 200000, by decide, by decide⟩ .nothing]
      Sample.opened).IsChain Block.Precedes ∧
    (blocks .initial [.block ⟨100, 0, by decide, by decide⟩ .nothing, .reopening, .block .epoch .nothing]
      Sample.opened).IsChain Block.Precedes :=
  ⟨(blocks_in_order Sample.restore_empty _).1, (blocks_in_order Sample.restore_empty _).2.1 (by decide),
    (blocks_in_order Sample.restore_empty _).2.2 (by decide)⟩

/-- The clock of an opened node has lost the fraction of the millisecond, and lets a block in that is earlier than the
last one. -/
theorem Happening.blocks_out_of_order :
    Node.restore .initial .empty = .ok Sample.opened ∧
      ¬ (blocks .initial Sample.blinks Sample.opened).IsChain Block.Precedes := by
  refine ⟨Sample.restore_empty, fun h => ?_⟩
  rw [Sample.blocks_blinks] at h
  have hback := (List.isChain_cons_cons.mp h).1.time
  exact absurd hback (by decide)

end Roshambo
