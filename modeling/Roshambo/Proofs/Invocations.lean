import Roshambo.Proofs.Folders

namespace Roshambo.CommandLine

variable {δ α β : Type}

variable [Disk (StateM δ)] {folder : String} {config : NodeConfig} {name : DatabaseName} {apart : String → Prop}
  {holds : Database → δ → Prop}

def Session.serve (around : Surroundings) (words : List String) (session : Session) :
    StateM δ (Response × Session) := do
  match Request.grammar.read words with
  | .error .misuse => return (⟨2, [], misuseComplaint⟩, session)
  | .error (.shown lines) => return (⟨0, lines, ""⟩, session)
  | .ok request =>
    match blockTime around request.time with
    | .error failure => return (⟨1, [], "Error: " ++ failure.report⟩, session)
    | .ok time =>
      match ← (Shell.execute around time request.command).run.run { session with printed := [] } with
      | (.ok (), session) => return (⟨0, session.printed, ""⟩, session)
      | (.error failure, session) => return (⟨1, session.printed, "Error: " ++ failure.line⟩, session)

lemma loadConfig_eq (reliable : Reliable folder config name apart holds) {tables : Database} {disk : δ}
    (h : holds tables disk) :
    (loadConfig folder : ExceptT Failure (StateM δ) NodeConfig).run disk = (.ok config, disk) := by
  obtain ⟨text, hread, hconfig⟩ := reliable.configured h
  rw [loadConfig, except_bind_apply, except_lift_apply, hread]
  simp only [hconfig]
  rfl

lemma openFolder_eq (reliable : Reliable folder config name apart holds) {tables : Database} {disk : δ}
    (h : holds tables disk) :
    (openFolder folder : ExceptT Failure (StateM δ) Session).run disk =
      (do
        config.validate
        return ⟨← Node.restore config tables, name, []⟩, disk) := by
  have hload := loadConfig_eq reliable h
  rw [openFolder, except_bind_apply, except_lift_apply, reliable.entered h]
  simp only [except_bind_apply, except_lift_apply, hload, except_ofExcept_apply]
  cases config.validate with
  | error e => rfl
  | ok =>
    simp only [reliable.named, reliable.opened h, Except.mapError]
    cases Node.restore config tables <;> rfl

structure Invocation where
  around : Surroundings
  words : List String

namespace Invocation

def IsRequest (i : Invocation) : Prop := ∃ request, Request.grammar.read i.words = .ok request

/-- The line is about the ledger of one folder, and the files it writes are apart; it gives the time of its block, or
is run at a whole millisecond. -/
def Fits (folder : String) (apart : String → Prop) (i : Invocation) : Prop :=
  ∀ request, Request.grammar.read i.words = .ok request →
    request.folder.getD i.around.folder = folder ∧ (request.time.isSome ∨ i.around.now.IsWhole) ∧
      ∀ file, request.command = .exportGenesis (some file) → apart file

def separately (is : List Invocation) : StateM δ (List Response) := is.mapM fun i => run i.around i.words

def together (is : List Invocation) : StateT Session (StateM δ) (List Response) :=
  is.mapM fun i => Session.serve i.around i.words

end Invocation

lemma blockTime_whole {around : Surroundings} {seconds : Option Int} (h : seconds.isSome ∨ around.now.IsWhole)
    {time : Instant} (htime : blockTime around seconds = .ok time) : time.IsWhole := by
  cases seconds with
  | none =>
    obtain rfl := Except.ok.inj htime
    exact h.resolve_left Bool.false_ne_true
  | some seconds =>
    simp only [blockTime, Instant.make?] at htime
    split at htime
    · rename_i hmake
      split_ifs at hmake
      obtain rfl := Option.some.inj hmake
      obtain rfl := Except.ok.inj htime
      exact ⟨Nat.zero_lt_succ _, rfl⟩
    · cases htime

lemma openFolder_ready (reliable : Reliable folder config name apart holds) (valid : config.validate = .ok ())
    {session : Session} {disk : δ} (ready : session.Ready config name holds disk) :
    (openFolder folder : ExceptT Failure (StateM δ) Session).run disk = (.ok { session with printed := [] }, disk) := by
  rw [openFolder_eq reliable ready.holds, valid, ok_bind, ready.saved.restore, ← ready.database]
  rfl

lemma serve_ready (reliable : Reliable folder config name apart holds) (valid : config.validate = .ok ())
    {session : Session} {disk : δ} (ready : session.Ready config name holds disk) {i : Invocation}
    (fits : i.Fits folder apart) :
    let served := Session.serve i.around i.words session disk
    served.1.2.Ready config name holds served.2 ∧
      (run i.around i.words : StateM δ Response) disk = (served.1.1, served.2) := by
  have hready : Session.Ready config name holds { session with printed := [] } disk :=
    ⟨ready.saved, ready.database, ready.holds⟩
  simp only [Session.serve, run]
  cases hread : Request.grammar.read i.words with
  | error stop =>
    cases stop with
    | misuse => exact ⟨ready, rfl⟩
    | shown lines => exact ⟨ready, rfl⟩
  | ok request =>
    obtain ⟨hfolder, htime, hfile⟩ := fits request hread
    have hprepare : (prepare i.around request : ExceptT Failure (StateM δ) (Session × Instant)).run disk =
        ((blockTime i.around request.time).map fun time => ({ session with printed := [] }, time), disk) := by
      rw [prepare, hfolder, except_bind_apply, openFolder_ready reliable valid ready]
      simp only [except_bind_apply, except_ofExcept_apply]
      cases blockTime i.around request.time <;> rfl
    simp only [state_bind_apply, hprepare]
    cases hblock : blockTime i.around request.time with
    | error failure => exact ⟨ready, rfl⟩
    | ok time =>
      have hexecute := Shell.Steady.execute reliable i.around (blockTime_whole htime hblock) hfile _ _ hready
      simp only [Except.map, state_bind_apply]
      simp only [Shell.outcome] at hexecute
      generalize (Shell.execute (m := StateM δ) i.around time request.command).run.run _ disk = executed at hexecute ⊢
      obtain ⟨⟨result, session'⟩, disk'⟩ := executed
      cases result with
      | ok => exact ⟨hexecute, rfl⟩
      | error failure => exact ⟨hexecute, rfl⟩

lemma serve_other {i : Invocation} (h : ¬ i.IsRequest) (session : Session) (disk found : δ) :
    ∃ response, Session.serve i.around i.words session disk = ((response, session), disk) ∧
      (run i.around i.words : StateM δ Response) found = (response, found) := by
  simp only [Session.serve, run]
  cases hread : Request.grammar.read i.words with
  | ok request => exact absurd ⟨request, hread⟩ h
  | error stop => cases stop <;> exact ⟨_, rfl, rfl⟩

lemma run_congr {i : Invocation} (h : i.IsRequest) (fits : i.Fits folder apart) {found left : δ}
    (hopen : (openFolder folder : ExceptT Failure (StateM δ) Session).run found =
      (openFolder folder : ExceptT Failure (StateM δ) Session).run left) :
    (run i.around i.words : StateM δ Response) found = (run i.around i.words : StateM δ Response) left := by
  obtain ⟨request, hread⟩ := h
  have hprepare : (prepare i.around request : ExceptT Failure (StateM δ) (Session × Instant)).run found =
      (prepare i.around request : ExceptT Failure (StateM δ) (Session × Instant)).run left := by
    rw [prepare, (fits request hread).1, except_bind_apply, except_bind_apply, hopen]
  simp only [run, hread, state_bind_apply, hprepare]

namespace Invocation

lemma separately_cons (i : Invocation) (is : List Invocation) (disk : δ) :
    (separately (i :: is) : StateM δ (List Response)) disk =
      let first := (run i.around i.words : StateM δ Response) disk
      let rest := (separately is : StateM δ (List Response)) first.2
      (first.1 :: rest.1, rest.2) := by
  rw [separately, List.mapM_cons]
  rfl

lemma together_cons (i : Invocation) (is : List Invocation) (session : Session) (disk : δ) :
    together (i :: is) session disk =
      let first := Session.serve i.around i.words session disk
      let rest := together is first.1.2 first.2
      ((first.1.1 :: rest.1.1, rest.1.2), rest.2) := by
  rw [together, List.mapM_cons]
  rfl

lemma separately_eq (reliable : Reliable folder config name apart holds) (valid : config.validate = .ok ())
    {session : Session} {disk : δ} (ready : session.Ready config name holds disk) {is : List Invocation}
    (fits : ∀ i ∈ is, i.Fits folder apart) :
    (separately is : StateM δ (List Response)) disk =
      ((together is session disk).1.1, (together is session disk).2) := by
  induction is generalizing session disk with
  | nil => rfl
  | cons i is ih =>
    obtain ⟨hi, his⟩ := List.forall_mem_cons.mp fits
    obtain ⟨hready, hrun⟩ := serve_ready reliable valid ready hi
    rw [separately_cons, together_cons, hrun]
    simp only
    rw [ih hready his]

lemma separately_found (reliable : Reliable folder config name apart holds) (valid : config.validate = .ok ())
    {session : Session} {found left : δ} (ready : session.Ready config name holds left)
    (hopen : (openFolder folder : ExceptT Failure (StateM δ) Session).run found =
      (openFolder folder : ExceptT Failure (StateM δ) Session).run left)
    {is : List Invocation} (fits : ∀ i ∈ is, i.Fits folder apart) :
    ((separately is : StateM δ (List Response)) found).1 = (together is session left).1.1 ∧
      ((∃ i ∈ is, i.IsRequest) →
        ((separately is : StateM δ (List Response)) found).2 = (together is session left).2) := by
  induction is with
  | nil => exact ⟨rfl, fun ⟨_, h, _⟩ => (List.not_mem_nil h).elim⟩
  | cons i is ih =>
    obtain ⟨hi, his⟩ := List.forall_mem_cons.mp fits
    -- Nothing is opened before the first line that asks for something; from there on both find the same disk.
    by_cases hrequest : i.IsRequest
    · have h : (separately (i :: is) : StateM δ (List Response)) found =
          (separately (i :: is) : StateM δ (List Response)) left := by
        rw [separately_cons, separately_cons, run_congr hrequest hi hopen]
      rw [h, separately_eq reliable valid ready fits]
      exact ⟨rfl, fun _ => rfl⟩
    · obtain ⟨response, hserve, hrun⟩ := serve_other hrequest session left found
      obtain ⟨hanswers, hdisk⟩ := ih his
      rw [separately_cons, together_cons, hserve, hrun]
      refine ⟨congrArg _ hanswers, fun ⟨j, hj, h⟩ => hdisk ⟨j, ?_, h⟩⟩
      refine (List.mem_cons.mp hj).resolve_left fun heq => hrequest ?_
      rwa [← heq]

end Invocation

lemma ready_of_openFolder (reliable : Reliable folder config name apart holds) {session : Session} {left : δ}
    (hempty : holds .empty left)
    (hopened : (openFolder folder : ExceptT Failure (StateM δ) Session).run left = (.ok session, left)) :
    config.validate = .ok () ∧ session.Ready config name holds left := by
  rw [openFolder_eq reliable hempty] at hopened
  obtain ⟨valid, hvalid, h⟩ := bind_eq_ok_iff.mp (congrArg Prod.fst hopened)
  obtain ⟨node, hnode, h⟩ := bind_eq_ok_iff.mp h
  obtain rfl := Except.ok.inj h
  refine ⟨hvalid, Node.saved_of_restore_empty hnode, rfl, ?_⟩
  rwa [(Node.restore_eq_ok_iff.mp hnode).database]

/-- Closing a node and opening it again goes unnoticed. A node that was opened on an empty database is found again as
it is, after any operations at whole milliseconds; and lines that are run one by one, of which the first makes the
folder, are answered and leave the disk as in one session. -/
theorem restarts_unnoticed :
    (∀ {config : NodeConfig} {node : Node}, Node.restore config .empty = .ok node →
      ∀ operations : List Operation, (∀ op ∈ operations, op.IsTimed) →
        Node.restore config (Operation.run operations node).database = .ok (Operation.run operations node)) ∧
    ∀ {δ : Type} [Disk (StateM δ)] {folder : String} {config : NodeConfig} {name : DatabaseName} {apart : String → Prop}
      {holds : Database → δ → Prop}, Reliable folder config name apart holds →
      ∀ {found left : δ} {session : Session}, holds .empty left →
        (openFolder folder : ExceptT Failure (StateM δ) Session).run found = (.ok session, left) →
        (openFolder folder : ExceptT Failure (StateM δ) Session).run left = (.ok session, left) →
        ∀ is : List Invocation, (∀ i ∈ is, i.Fits folder apart) →
          ((Invocation.separately is : StateM δ (List Response)) found).1 =
            (Invocation.together is session left).1.1 ∧
          ((∃ i ∈ is, i.IsRequest) →
            ((Invocation.separately is : StateM δ (List Response)) found).2 =
              (Invocation.together is session left).2) := by
  refine ⟨fun opened operations timed => ((Node.saved_of_restore_empty opened).run timed).restore, ?_⟩
  intro δ _ folder config name apart holds reliable found left session hempty hfound hleft is fits
  obtain ⟨valid, ready⟩ := ready_of_openFolder reliable hempty hleft
  exact Invocation.separately_found reliable valid ready (hfound.trans hleft.symm) fits

namespace Sample

lemma home : Files.Home "data" ["data"] where
  leads := ⟨by decide, by decide, List.forall_mem_singleton.mpr ⟨by decide, by decide, by decide⟩, by decide⟩
  short := by decide
  named := by decide

def furnished : Files := Files.empty.furnish ["data"]

lemma contains_furnished : Files.Contains .initial ["data"] .empty furnished := Files.contains_furnish (by decide)

def session : Session := ⟨Sample.opened, Files.databaseOf "data", []⟩

lemma openFolder_empty :
    (openFolder "data" : ExceptT Failure (StateM Files) Session).run .empty = (.ok session, furnished) := by
  rw [Files.openFolder_absent home rfl rfl (by decide), Sample.restore_empty]
  rfl

lemma openFolder_furnished :
    (openFolder "data" : ExceptT Failure (StateM Files) Session).run furnished = (.ok session, furnished) := by
  rw [openFolder_eq (Files.reliable home) contains_furnished, Sample.restore_empty]
  rfl

def operations : List Operation :=
  [.fund "rps1qvdrtkhs" ⟨7⟩, .deliver ⟨90, 0, by decide, by decide⟩ (.startGame "rps1qvdrtkhs" ⟨"z"⟩ ⟨5⟩),
    .deliver .epoch .nothing, .importGenesis Sample.state]

def invocations : List Invocation :=
  [⟨⟨.epoch, [], "data"⟩, ["account", "fund", "rps1qvdrtkhs", "7"]⟩,
    ⟨⟨⟨90, 0, by decide, by decide⟩, [], "data"⟩, ["tick"]⟩, ⟨⟨.epoch, [], "data"⟩, ["tick"]⟩,
    ⟨⟨.epoch, [], "data"⟩, ["genesis", "export", "data/state.json"]⟩]

lemma fits_of_read {i : Invocation} {command : Command}
    (h : Request.grammar.read i.words = .ok ⟨none, none, false, command⟩) (hfolder : i.around.folder = "data")
    (hnow : i.around.now.IsWhole)
    (hfile : ∀ file, command = .exportGenesis (some file) → Files.Apart ["data"] file) :
    i.Fits "data" (Files.Apart ["data"]) := by
  intro request hread
  obtain rfl := Except.ok.inj (h.symm.trans hread)
  exact ⟨hfolder, Or.inr hnow, hfile⟩

lemma read_fund : Request.grammar.read ["account", "fund", "rps1qvdrtkhs", "7"] =
    .ok ⟨none, none, false, .fund "rps1qvdrtkhs" ⟨7⟩⟩ := by
  decide +kernel

lemma read_export : Request.grammar.read ["genesis", "export", "data/state.json"] =
    .ok ⟨none, none, false, .exportGenesis (some "data/state.json")⟩ := by
  decide +kernel

lemma fits_invocations : ∀ i ∈ invocations, i.Fits "data" (Files.Apart ["data"]) := by
  have htick : Request.grammar.read ["tick"] = .ok ⟨none, none, false, .tick⟩ := by decide +kernel
  have hexport : ∀ file, Command.exportGenesis (some "data/state.json") = .exportGenesis (some file) →
      Files.Apart ["data"] file := by
    intro file h
    obtain rfl := Option.some.inj (Command.exportGenesis.inj h)
    exact ⟨by decide, by decide⟩
  simp only [invocations, List.forall_mem_cons]
  exact ⟨fits_of_read read_fund rfl (by decide) nofun, fits_of_read htick rfl (by decide) nofun,
    fits_of_read htick rfl (by decide) nofun, fits_of_read read_export rfl (by decide) hexport,
    fun _ h => (List.not_mem_nil h).elim⟩

end Sample

theorem restarts_unnoticed_invoked :
    Node.restore .initial (Operation.run Sample.operations Sample.opened).database =
      .ok (Operation.run Sample.operations Sample.opened) ∧
    let separate := (Invocation.separately Sample.invocations : StateM Files _) .empty
    let together := Invocation.together Sample.invocations Sample.session Sample.furnished
    separate.1 = together.1.1 ∧ separate.2 = together.2 := by
  refine ⟨restarts_unnoticed.1 Sample.restore_empty _ (by decide), ?_⟩
  obtain ⟨hanswers, hdisk⟩ := restarts_unnoticed.2 (Files.reliable Sample.home) Sample.contains_furnished
    Sample.openFolder_empty Sample.openFolder_furnished _ Sample.fits_invocations
  exact ⟨hanswers, hdisk ⟨_, List.mem_cons_self, _, Sample.read_fund⟩⟩

end Roshambo.CommandLine
