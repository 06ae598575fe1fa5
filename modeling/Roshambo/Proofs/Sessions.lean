import Roshambo.CommandLine.Run
import Roshambo.Proofs.Restarts

/-! Whatever a command does to the node, on a disk that keeps what it is given the node can be found again. -/

namespace Roshambo.CommandLine

variable {δ α β : Type}

lemma state_bind_apply (x : StateM δ α) (f : α → StateM δ β) (disk : δ) :
    (x >>= f : StateM δ β) disk = f (x disk).1 (x disk).2 := rfl

lemma except_bind_apply {ε : Type} (x : ExceptT ε (StateM δ) α) (f : α → ExceptT ε (StateM δ) β) (disk : δ) :
    (x >>= f : ExceptT ε (StateM δ) β).run disk = match x.run disk with
      | (.ok a, disk) => (f a).run disk
      | (.error e, disk) => (.error e, disk) := by
  have h : (x >>= f : ExceptT ε (StateM δ) β).run disk =
      match x.run disk with
      | (r, disk) => (ExceptT.bindCont f r disk : Except ε β × δ) := rfl
  rw [h]
  obtain ⟨r, disk⟩ := x.run disk
  cases r <;> rfl

lemma except_lift_apply {ε : Type} (x : StateM δ α) (disk : δ) :
    (liftM x : ExceptT ε (StateM δ) α).run disk = (.ok (x disk).1, (x disk).2) := rfl

lemma except_ofExcept_apply {ε : Type} (x : Except ε α) (disk : δ) :
    (ofExcept x : ExceptT ε (StateM δ) α).run disk = (x, disk) := by
  cases x <;> rfl

/-- A disk with the folder of a ledger on it: as long as `holds`, the folder is there with its configuration, and its
database has the tables that were saved last. Only the files that are `apart` may be written otherwise. -/
structure Reliable [Disk (StateM δ)] (folder : String) (config : NodeConfig) (name : DatabaseName)
    (apart : String → Prop) (holds : Database → δ → Prop) : Prop where
  named : DatabaseName.ofText (inFolder folder databaseName) = .ok name
  entered : ∀ {tables disk}, holds tables disk → (createFolder folder : StateM δ _) disk = (.ok (), disk)
  configured : ∀ {tables disk}, holds tables disk → ∃ text,
    (Disk.readText (inFolder folder configName) : StateM δ _) disk = (.ok text, disk) ∧
      NodeConfig.ofText? text = some config
  opened : ∀ {tables disk}, holds tables disk → (Disk.openDatabase name : StateM δ _) disk = (.ok tables, disk)
  saved : ∀ {tables disk} tables', holds tables disk →
    holds tables' ((Disk.saveDatabase name tables' : StateM δ _) disk).2
  read : ∀ {tables disk} file, holds tables disk → ((Disk.readText file : StateM δ _) disk).2 = disk
  written : ∀ {tables disk file} text, holds tables disk → apart file →
    holds tables ((Disk.writeText file text : StateM δ _) disk).2

structure Session.Ready (config : NodeConfig) (name : DatabaseName) (holds : Database → δ → Prop) (session : Session)
    (disk : δ) : Prop where
  saved : session.node.Saved config
  database : session.database = name
  holds : holds session.node.database disk

namespace Shell

def outcome (act : Shell (StateM δ) α) (session : Session) (disk : δ) : (Except Failure α × Session) × δ :=
  (act.run.run session : StateM δ (Except Failure α × Session)) disk

lemma outcome_bind (act : Shell (StateM δ) α) (next : α → Shell (StateM δ) β) (session : Session) (disk : δ) :
    (act >>= next).outcome session disk =
      match act.outcome session disk with
      | ((.ok a, session), disk) => (next a).outcome session disk
      | ((.error e, session), disk) => ((.error e, session), disk) := by
  have h : (act >>= next).outcome session disk =
      match act.outcome session disk with
      | ((r, session), disk) => (ExceptT.bindCont next r session disk : (Except Failure β × Session) × δ) := rfl
  rw [h]
  obtain ⟨⟨r, session⟩, disk⟩ := act.outcome session disk
  cases r <;> rfl

lemma outcome_get (session : Session) (disk : δ) :
    (get : Shell (StateM δ) Session).outcome session disk = ((.ok session, session), disk) := rfl

lemma outcome_set (next session : Session) (disk : δ) :
    (set next : Shell (StateM δ) PUnit).outcome session disk = ((.ok ⟨⟩, next), disk) := rfl

lemma outcome_lift (x : StateM δ α) (session : Session) (disk : δ) :
    (liftM x : Shell (StateM δ) α).outcome session disk = ((.ok (x disk).1, session), (x disk).2) := rfl

lemma outcome_ofExcept (x : Except Failure α) (session : Session) (disk : δ) :
    (ofExcept x : Shell (StateM δ) α).outcome session disk = ((x, session), disk) := by
  cases x <;> rfl

variable {folder : String} {config : NodeConfig} {name : DatabaseName} {apart : String → Prop}
  {holds : Database → δ → Prop}

def Steady (config : NodeConfig) (name : DatabaseName) (holds : Database → δ → Prop)
    (act : Shell (StateM δ) α) : Prop :=
  ∀ session disk, session.Ready config name holds disk →
    (act.outcome session disk).1.2.Ready config name holds (act.outcome session disk).2

namespace Steady

variable {act : Shell (StateM δ) α}

lemma pure (a : α) : Steady config name holds (Pure.pure a : Shell (StateM δ) α) := fun _ _ => id

lemma throw (e : Failure) : Steady config name holds (MonadExcept.throw e : Shell (StateM δ) α) := fun _ _ => id

lemma bind (h : Steady config name holds act) {next : α → Shell (StateM δ) β}
    (hnext : ∀ a, Steady config name holds (next a)) : Steady config name holds (act >>= next) := by
  intro session disk ready
  have hact := h session disk ready
  rw [outcome_bind]
  generalize act.outcome session disk = r at hact ⊢
  obtain ⟨⟨r, session'⟩, disk'⟩ := r
  cases r with
  | error e => exact hact
  | ok a => exact hnext a session' disk' hact

lemma node : Steady config name holds (Shell.node : Shell (StateM δ) Node) := fun _ _ => id

lemma say (line : String) : Steady config name holds (Shell.say line : Shell (StateM δ) Unit) :=
  fun _ _ ready => ⟨ready.saved, ready.database, ready.holds⟩

lemma sayAll (lines : List String) : Steady config name holds (Shell.sayAll lines : Shell (StateM δ) Unit) :=
  fun _ _ ready => ⟨ready.saved, ready.database, ready.holds⟩

lemma onLedger (x : Except LedgerError α) : Steady config name holds (Shell.onLedger x : Shell (StateM δ) α) := by
  cases x with
  | ok a => exact pure a
  | error e => exact throw _

lemma onGame (x : Except GameError α) : Steady config name holds (Shell.onGame x : Shell (StateM δ) α) := by
  cases x with
  | ok a => exact pure a
  | error e => exact throw _

lemma ofExcept (x : Except Failure α) : Steady config name holds (MonadExcept.ofExcept x : Shell (StateM δ) α) := by
  intro session disk ready
  rw [outcome_ofExcept]
  exact ready

lemma request {x : StateM δ (Except DiskFault α)} (h : ∀ {tables disk}, holds tables disk → holds tables (x disk).2)
    (what file : String) : Steady config name holds (Shell.request what file x) := by
  intro session disk ready
  have hready : session.Ready config name holds (x disk).2 := ⟨ready.saved, ready.database, h ready.holds⟩
  rw [Shell.request, outcome_bind, outcome_lift]
  cases (x disk).1 with
  | ok a => exact pure a session (x disk).2 hready
  | error fault => exact throw _ session (x disk).2 hready

lemma readMove (label : String) : Steady config name holds (Shell.readMove label : Shell (StateM δ) Move) := by
  unfold Shell.readMove
  split
  · exact pure _
  · exact throw _

lemma listGames : Steady config name holds (Shell.listGames : Shell (StateM δ) Unit) := by
  refine node.bind fun node => ?_
  change Steady config name holds (if node.keeper.store.games.isEmpty then _ else _)
  split
  · exact say _
  · exact sayAll _

lemma showPending (time : Instant) : Steady config name holds (Shell.showPending time : Shell (StateM δ) Unit) := by
  refine node.bind fun _ => (onGame _).bind fun ⟨store, settled⟩ => ?_
  change Steady config name holds (if settled.isEmpty then _ else _)
  split
  · exact say _
  · exact (say _).bind fun _ => (sayAll _).bind fun _ => say _

variable [Disk (StateM δ)] (reliable : Reliable folder config name apart holds)

include reliable

lemma perform {act : NodeAction α} (h : ∀ node, node.Saved config → (act.after node).Saved config) :
    Steady config name holds (Shell.perform act : Shell (StateM δ) α) := by
  intro session disk ready
  have houtcome : (Shell.perform act : Shell (StateM δ) α).outcome session disk =
      ((act.answer session.node, { session with node := act.after session.node }),
        ((Disk.saveDatabase session.database (act.after session.node).database : StateM δ _) disk).2) := by
    simp only [Shell.perform, outcome_bind, outcome_get, outcome_set, outcome_lift, outcome_ofExcept]
    cases h : act session.node <;> simp only [NodeAction.answer, NodeAction.after, h]
  rw [houtcome]
  exact ⟨h _ ready.saved, ready.database, ready.database ▸ reliable.saved _ ready.holds⟩

lemma deliver {time : Instant} (whole : time.IsWhole) {tx : Block → Transaction Bech32Codec Accounts α}
    (orderly : ∀ block, (tx block).Orderly) (lines : Delivery α → Node → List String) :
    Steady config name holds (Shell.deliver time tx lines : Shell (StateM δ) Unit) := by
  refine (perform reliable fun _ saved => saved.deliver whole orderly).bind fun delivery => node.bind fun _ => ?_
  exact (sayAll _).bind fun _ => (ofExcept _).bind fun _ => sayAll _

lemma exportGenesis {file : Option String} (hfile : ∀ f ∈ file, apart f) :
    Steady config name holds (Shell.exportGenesis file : Shell (StateM δ) Unit) := by
  refine node.bind fun _ => (onGame _).bind fun state => ?_
  cases file with
  | none => exact say _
  | some file => exact (request (fun h => reliable.written _ h (hfile file rfl)) _ _).bind fun _ => say _

lemma importGenesis (file : String) : Steady config name holds (Shell.importGenesis file : Shell (StateM δ) Unit) := by
  have hread : ∀ {tables disk}, holds tables disk →
      holds tables ((Disk.readText file : StateM δ (Except DiskFault String)) disk).2 := by
    intro tables disk h
    rwa [reliable.read file h]
  refine (request hread _ _).bind fun text => ?_
  cases GenesisState.ofText? text with
  | none => exact throw _
  | some state =>
    refine (perform reliable fun _ saved => saved.importGenesis state).bind fun adjustment => ?_
    exact (say _).bind fun _ => node.bind fun _ => (say _).bind fun _ => sayAll _

lemma execute (around : Surroundings) {time : Instant} (whole : time.IsWhole) {command : Command}
    (hfile : ∀ file, command = .exportGenesis (some file) → apart file) :
    Steady config name holds (Shell.execute around time command : Shell (StateM δ) Unit) := by
  cases command with
  | newAccount => exact node.bind fun _ => (onLedger _).bind fun _ => sayAll _
  | fund address amount =>
    exact (perform reliable fun _ saved => saved.fund address amount).bind fun _ => sayAll _
  | balance address => exact node.bind fun _ => (onLedger _).bind fun _ => say _
  | listAccounts => exact node.bind fun _ => sayAll _
  | newGame player label fee salt =>
    exact (readMove label).bind fun move =>
      deliver reliable whole (fun block => Transaction.orderly_startGame block _ _ _) _
  | commitMove player game label salt =>
    exact (readMove label).bind fun move =>
      deliver reliable whole (fun block => Transaction.orderly_commitMove block _ _ _) _
  | revealMove player game label salt =>
    exact deliver reliable whole (fun block => Transaction.orderly_revealMove block _ _ _ _) _
  | tick => exact deliver reliable whole (fun _ => Transaction.orderly_pure ()) _
  | listGames => exact listGames
  | showGame id => exact node.bind fun _ => (onGame _).bind fun _ => sayAll _
  | showCount => exact node.bind fun _ => sayAll _
  | showParams => exact node.bind fun _ => sayAll _
  | showPending => exact showPending time
  | updateParams authority params =>
    exact deliver reliable whole (fun _ => Transaction.orderly_updateParams authority params) _
  | exportGenesis file =>
    exact exportGenesis reliable fun f hf => hfile f (congrArg Command.exportGenesis hf)
  | importGenesis file => exact importGenesis reliable file

end Steady

end Shell

end Roshambo.CommandLine
