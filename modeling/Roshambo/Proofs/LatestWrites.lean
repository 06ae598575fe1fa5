import Mathlib.Order.Bounds.Defs
import Roshambo.Json.Number
import Roshambo.Proofs.Instants
import Roshambo.Proofs.LastWords
import Roshambo.Proofs.SnapshotTexts
import Roshambo.Proofs.StoredRows

namespace Roshambo

namespace Instant

variable {t r : Instant}

def IsAfterAll (t : Instant) : Prop := nanosPerSecond ≤ t.nanos ∧ ∀ s : Instant, s.seconds ≤ t.seconds

lemma isGreatest_ofMillis? (h : t.nanos < nanosPerSecond) (hread : ofMillis? t.millis = some r) :
    IsGreatest {s | s.IsWhole ∧ s ≤ t} r := by
  obtain ⟨r', hr', hseconds, hnanos⟩ := ofMillis?_millis h
  obtain rfl := Option.some.inj (hr'.symm.trans hread)
  simp only [nanosPerSecond] at h
  constructor
  · simp only [Set.mem_ofPred_eq, IsWhole, le_iff, lt_iff, nanosPerSecond]
    omega
  · rintro s ⟨⟨_, hwhole⟩, hle⟩
    rw [le_iff, lt_iff] at hle ⊢
    omega

lemma ofMillis?_eq_none_iff : ofMillis? t.millis = none ↔ t.IsAfterAll := by
  rcases Nat.lt_or_ge t.nanos nanosPerSecond with h | h
  · obtain ⟨r, hr, _⟩ := ofMillis?_millis h
    exact iff_of_false (hr ▸ Option.some_ne_none r) fun hlast => absurd hlast.1 (Nat.not_le.mpr h)
  · have hnanos : t.nanos < 2 * nanosPerSecond := by
      rcases t.nanosFit with hfit | hfit
      · omega
      · exact hfit.1
    simp only [nanosPerSecond] at h hnanos
    have hseconds : t.millis / 1000 = t.seconds + 1 := by
      rw [millis]
      omega
    have hfit : (t.millis % 1000).toNat * 1000000 < nanosPerSecond := by
      rw [nanosPerSecond]
      omega
    constructor
    · intro hnone
      refine ⟨h, fun s => ?_⟩
      by_contra hlt
      have hlow := t.inRange.1
      have hhigh := s.inRange.2
      have hrange : -8334601228800 ≤ t.millis / 1000 ∧ t.millis / 1000 ≤ 8210266876799 := by omega
      have hread : ofMillis? t.millis = some ⟨_, _, hrange, Or.inl hfit⟩ := make?_eq_some_iff.mpr ⟨rfl, rfl⟩
      cases hnone.symm.trans hread
    · rintro ⟨_, hlast⟩
      by_contra hsome
      obtain ⟨r, hr⟩ := Option.ne_none_iff_exists'.mp hsome
      have hr := (make?_eq_some_iff.mp hr).1
      have hle := hlast r
      omega

end Instant

namespace Database

inductive Write
  | saveAccounts (accounts : Accounts)
  | saveSnapshot (block : Block) (accounts : Accounts) (name text : String)
  deriving DecidableEq

namespace Write

def apply (db : Database) : Write → Database
  | saveAccounts accounts => db.saveAccounts accounts
  | saveSnapshot block accounts name text => db.saveSnapshot block accounts name text

def run (writes : List Write) : Database := writes.foldl apply empty

def block? : Write → Option Block
  | saveAccounts _ => none
  | saveSnapshot block _ _ _ => some block

def accounts : Write → Accounts
  | saveAccounts accounts | saveSnapshot _ accounts _ _ => accounts

def pool? (owner : String) (write : Write) : Option Amount :=
  if owner = write.accounts.owner then some write.accounts.pool else none

def balance? (address : Address) (write : Write) : Option Amount := write.accounts.balances.get? address

def text? (name : String) : Write → Option String
  | saveAccounts _ => none
  | saveSnapshot _ _ name' text => if name = name' then some text else none

def balances (writes : List Write) : SortedMap Address Amount :=
  writes.foldl (fun balances write => balances.update write.accounts.balances) ∅

lemma balances_concat (writes : List Write) (write : Write) :
    balances (writes ++ [write]) = (balances writes).update write.accounts.balances := by
  rw [balances, List.foldl_append]
  rfl

lemma get?_balances (writes : List Write) (address : Address) :
    (balances writes).get? address = lastWord? (balance? address) writes := by
  induction writes using List.reverseRecOn with
  | nil => rfl
  | append_singleton writes write ih => rw [balances_concat, SortedMap.get?_update, lastWord?_concat, ih, balance?]

end Write

open Write

variable {db : Database} {writes : List Write} {α : Type}

structure Holds (db : Database) (writes : List Write) : Prop where
  clock : db.clock = (lastWord? block? writes).map clockRow
  pool : ∀ owner, (db.pools.get? owner).map rowAmount = lastWord? (pool? owner) writes
  balances : ShowsBalances db.accounts (balances writes)
  text : ∀ name, (db.states.get? name).map (·.text) = lastWord? (text? name) writes

lemma holds_empty : empty.Holds [] where
  clock := rfl
  pool _ := rfl
  balances := .empty
  text _ := rfl

namespace Holds

lemma apply (holds : db.Holds writes) (write : Write) : (write.apply db).Holds (writes ++ [write]) := by
  -- every write has accounts, so pools and balances need no cases
  have hpool : ∀ owner,
      ((write.apply db).pools.get? owner).map rowAmount = lastWord? (pool? owner) (writes ++ [write]) := by
    intro owner
    have hpools : (write.apply db).pools = db.pools.insert write.accounts.owner (amountRow write.accounts.pool) := by
      cases write <;> rfl
    rw [hpools, SortedMap.get?_insert, lastWord?_concat, pool?, ← holds.pool]
    split
    · rw [Option.map_some, rowAmount_amountRow, Option.some_or]
    · rw [Option.none_or]
  have hbalances : ShowsBalances (write.apply db).accounts (Write.balances (writes ++ [write])) := by
    have haccounts : (write.apply db).accounts = write.accounts.balances.entries.foldl
        (fun rows e => rows.insert e.1.hex (amountRow e.2)) db.accounts := by
      cases write <;> rfl
    rw [haccounts, balances_concat]
    exact holds.balances.update _
  refine { clock := ?clock, pool := hpool, balances := hbalances, text := fun name => ?text }
  case clock =>
    rw [lastWord?_concat]
    cases write with
    | saveAccounts accounts => exact holds.clock
    | saveSnapshot block accounts name text => rfl
  case text =>
    rw [lastWord?_concat, ← holds.text]
    cases write with
    | saveAccounts accounts => rfl
    | saveSnapshot block accounts name' text =>
      rw [text?, Write.apply, saveSnapshot, saveState, SortedMap.get?_insert]
      split <;> rfl

lemma run (writes : List Write) : (run writes).Holds writes := by
  induction writes using List.reverseRecOn with
  | nil => exact holds_empty
  | append_singleton writes write ih =>
    rw [Write.run, List.foldl_append]
    exact ih.apply write

variable (holds : db.Holds writes)

include holds

lemma loadClock_none (h : lastWord? block? writes = none) : db.loadClock = .ok none := by
  have hclock := holds.clock
  rw [h] at hclock
  simp only [loadClock, hclock, Option.map_none]

lemma loadClock_some {block : Block} {time : Instant} (h : lastWord? block? writes = some block)
    (hread : Instant.ofMillis? block.time.millis = some time) : db.loadClock = .ok (some ⟨block.height, time⟩) := by
  have hclock := holds.clock
  rw [h] at hclock
  simp only [loadClock, hclock, Option.map_some, clockRow, Instant.toInt_millis, hread, UInt64.toUInt64_toInt64]

lemma loadClock_error {block : Block} (h : lastWord? block? writes = some block)
    (hread : Instant.ofMillis? block.time.millis = none) :
    db.loadClock = .error (.internal s!"invalid block time {block.time.millis}") := by
  have hclock := holds.clock
  rw [h] at hclock
  simp only [loadClock, hclock, Option.map_some, clockRow, Instant.toInt_millis, hread]

lemma loadAccounts (owner : String) : db.loadAccounts owner =
    .ok ⟨owner, (lastWord? (pool? owner) writes).getD .zero, Write.balances writes⟩ := by
  rw [Database.loadAccounts, loadBalances_eq_ok holds.balances, holds.pool]
  rfl

lemma loadState_none (decode : Json → Option α) {name : String} (h : lastWord? (text? name) writes = none) :
    db.loadState decode name = .ok none := by
  have hname := holds.text name
  rw [h, Option.map_eq_none_iff] at hname
  rw [loadState, hname]

lemma loadState_some (decode : Json → Option α) {name text : String} (h : lastWord? (text? name) writes = some text) :
    db.loadState decode name =
      ((Json.parse? text).bind decode).elim (.error .malformedState) fun state => .ok (some state) := by
  have hname := holds.text name
  rw [h, Option.map_eq_some_iff] at hname
  obtain ⟨row, hrow, rfl⟩ := hname
  simp only [loadState, hrow]
  cases (Json.parse? row.text).bind decode <;> rfl

end Holds

/-- What is loaded is the last word on it. A block time comes back as the latest whole one that is not after it, a leap
second somehow unless it is after all others, and a state if its text is read as it. -/
structure Recalls (db : Database) (writes : List Write) : Prop where
  noClock : lastWord? block? writes = none → db.loadClock = .ok none
  clock : ∀ block, lastWord? block? writes = some block → ¬ block.time.IsAfterAll →
    ∃ time, db.loadClock = .ok (some ⟨block.height, time⟩) ∧
      (block.time.nanos < nanosPerSecond → IsGreatest {t | t.IsWhole ∧ t ≤ block.time} time)
  lostClock : ∀ block, lastWord? block? writes = some block → block.time.IsAfterAll →
    db.loadClock = .error (.internal s!"invalid block time {block.time.millis}")
  accounts : ∀ owner, ∃ balances,
    db.loadAccounts owner = .ok ⟨owner, (lastWord? (pool? owner) writes).getD .zero, balances⟩ ∧
      ∀ address, balances.get? address = lastWord? (balance? address) writes
  noState : ∀ {α : Type} (decode : Json → Option α) (name : String),
    lastWord? (text? name) writes = none → db.loadState decode name = .ok none
  state : ∀ {α : Type} (decode : Json → Option α) (name text : String) (state : α),
    lastWord? (text? name) writes = some text → (Json.parse? text).bind decode = some state →
      db.loadState decode name = .ok (some state)
  lostState : ∀ {α : Type} (decode : Json → Option α) (name text : String),
    lastWord? (text? name) writes = some text → (Json.parse? text).bind decode = none →
      db.loadState decode name = .error .malformedState

lemma Holds.recalls (holds : db.Holds writes) : db.Recalls writes where
  noClock := holds.loadClock_none
  clock block h hbefore := by
    obtain ⟨time, hread⟩ := Option.ne_none_iff_exists'.mp fun hnone => hbefore (Instant.ofMillis?_eq_none_iff.mp hnone)
    exact ⟨time, holds.loadClock_some h hread, fun hplain => Instant.isGreatest_ofMillis? hplain hread⟩
  lostClock block h hafter := holds.loadClock_error h (Instant.ofMillis?_eq_none_iff.mpr hafter)
  accounts owner := ⟨_, holds.loadAccounts owner, get?_balances writes⟩
  noState decode name := holds.loadState_none decode
  state decode name text state h hread := by rw [holds.loadState_some decode h, hread, Option.elim_some]
  lostState decode name text h hread := by rw [holds.loadState_some decode h, hread, Option.elim_none]

lemma loadAccounts_of_listed {before : List Write} {last : Write}
    (listed : ∀ write ∈ before, ∀ address, (balance? address write).isSome → (balance? address last).isSome) :
    (run (before ++ [last])).loadAccounts last.accounts.owner = .ok last.accounts := by
  have hbalances : Write.balances (before ++ [last]) = last.accounts.balances := by
    rw [balances_concat]
    refine SortedMap.update_of_listed fun address hsome => ?_
    rw [get?_balances] at hsome
    obtain ⟨amount, hword⟩ := Option.isSome_iff_exists.mp hsome
    obtain ⟨write, hwrite, hsaid⟩ := exists_of_lastWord? hword
    exact listed write hwrite address (Option.isSome_iff_exists.mpr ⟨amount, hsaid⟩)
  have hpool : lastWord? (pool? last.accounts.owner) (before ++ [last]) = some last.accounts.pool := by
    rw [lastWord?_concat, pool?, if_pos rfl, Option.some_or]
  rw [(Holds.run _).loadAccounts, hpool, hbalances]
  rfl

/-- Whatever has been written is recalled; states that are written as JSON values, the records of the game among them,
are read as those values. When the last write lists every account of the writes before it, its accounts come back as
they are. -/
theorem latest_writes :
    (∀ writes : List Write, (run writes).Recalls writes) ∧
    (∀ (writes : List Write) (name : String) (value : Json), value.IsPrintable →
      lastWord? (text? name) writes = some value.compact → ∀ {α : Type} (decode : Json → Option α) (state : α),
        decode value = some state → (run writes).loadState decode name = .ok (some state)) ∧
    (∀ (writes : List Write) (name : String) (state : GenesisState), lastWord? (text? name) writes = some state.text →
      (run writes).loadState GenesisState.ofJson? name = .ok (some state)) ∧
    ∀ (before : List Write) (last : Write),
      (∀ write ∈ before, ∀ address, (balance? address write).isSome → (balance? address last).isSome) →
        (run (before ++ [last])).loadAccounts last.accounts.owner = .ok last.accounts := by
  have recalls : ∀ writes : List Write, (run writes).Recalls writes := fun writes => (Holds.run writes).recalls
  refine ⟨recalls, fun writes name value printable h {α} decode state hdecode => ?_, fun writes name state h => ?_,
    fun before last => loadAccounts_of_listed⟩
  · refine (recalls writes).state decode name _ state h ?_
    rw [Json.parse?_compact printable, Option.bind_some, hdecode]
  · exact (recalls writes).state _ name _ state h state.ofText?_text

end Database

def Json.numeral? : Json → Option Numeral
  | .number literal => Numeral.read? literal
  | _ => none

namespace Sample

open Database

def afterAll : Instant := ⟨8210266876799, 1500000000, by decide, Or.inr (by decide)⟩

def fraction : Json.Numeral := .double false (.ofDecimal 4906515915245218 (-23))

/-- What the own text of the fraction is read as, since a quotient of rounded numbers is rounded again. -/
def neighbour : Json.Numeral := .double false (.ofDecimal 49065159152452183 (-24))

def fine : Instant := ⟨1, 1500000, by decide, by decide⟩

def writes : List Write :=
  [.saveAccounts ⟨"bank", ⟨3⟩, (∅ : SortedMap Address Amount).insert ⟨[1]⟩ ⟨7⟩⟩,
    .saveSnapshot ⟨18446744073709551615, fine⟩
      ⟨"rps", ⟨9223372036854775808⟩, (∅ : SortedMap Address Amount).insert ⟨[2]⟩ ⟨18446744073709551615⟩⟩ "rps"
      (GenesisState.text ⟨.initial, 1, [], [], []⟩)]

def lastWrite : Write :=
  .saveAccounts ⟨"bank", ⟨4⟩, ((∅ : SortedMap Address Amount).insert ⟨[1]⟩ .zero).insert ⟨[2]⟩ ⟨1⟩⟩

end Sample

namespace Database

theorem latest_writes_lost :
    (Write.run [.saveSnapshot ⟨7, Sample.afterAll⟩ (.new "rps") "rps" "null"]).loadClock =
        .error (.internal "invalid block time 8210266876800500") ∧
      Sample.fraction ≠ Sample.neighbour ∧
      (Write.run [.saveSnapshot ⟨1, .epoch⟩ (.new "rps") "rps" (String.ofList Sample.fraction.chars)]).loadState
        Json.numeral? "rps" = .ok (some Sample.neighbour) := by
  decide +kernel

theorem latest_writes_recalled :
    (∃ time, (Write.run Sample.writes).loadClock = .ok (some ⟨18446744073709551615, time⟩) ∧
      IsGreatest {t | t.IsWhole ∧ t ≤ Sample.fine} time) ∧
    (∃ balances, (Write.run Sample.writes).loadAccounts "bank" = .ok ⟨"bank", ⟨3⟩, balances⟩ ∧
      balances.get? ⟨[1]⟩ = some ⟨7⟩ ∧ balances.get? ⟨[2]⟩ = some ⟨18446744073709551615⟩) ∧
    (Write.run Sample.writes).loadState GenesisState.ofJson? "rps" = .ok (some ⟨.initial, 1, [], [], []⟩) ∧
    (Write.run Sample.writes).loadState Json.numeral? "bank" = .ok none ∧
    (Write.run (Sample.writes ++ [Sample.lastWrite])).loadAccounts "bank" = .ok Sample.lastWrite.accounts := by
  obtain ⟨recalls, _, states, listed⟩ := latest_writes
  have recalls := recalls Sample.writes
  refine ⟨?_, ?_, states _ _ _ rfl, recalls.noState _ _ rfl, listed Sample.writes Sample.lastWrite ?_⟩
  · obtain ⟨time, hload, hrounded⟩ := recalls.clock _ rfl fun hlast => absurd hlast.1 (by decide)
    exact ⟨time, hload, hrounded (by decide)⟩
  · obtain ⟨balances, hload, hbalances⟩ := recalls.accounts "bank"
    exact ⟨balances, hload, hbalances _, hbalances _⟩
  · have hkeys : ∀ write ∈ Sample.writes, ∀ address ∈ write.accounts.balances.keys,
        (Write.balance? address Sample.lastWrite).isSome := by
      decide
    intro write hwrite address hsome
    exact hkeys write hwrite address (SortedMap.mem_keys.mpr (Option.isSome_iff_exists.mp hsome))

end Database

end Roshambo
