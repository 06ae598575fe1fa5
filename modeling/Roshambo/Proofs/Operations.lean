import Roshambo.Node.Basic
import Roshambo.Proofs.Atomicity

/-! Each action of a node checks what can fail before it writes. -/

namespace Roshambo

variable {α : Type}

def NodeAction.after (act : NodeAction α) (node : Node) : Node :=
  match act node with
  | .ok _ next => next
  | .error _ next => next

def NodeAction.answer (act : NodeAction α) (node : Node) : Except Failure α :=
  match act node with
  | .ok a _ => .ok a
  | .error e _ => .error e

def PoolAdjustment.apply (adjustment : PoolAdjustment) (accounts : Accounts) : Except LedgerError Accounts :=
  match adjustment with
  | .minted amount => accounts.mintPool amount
  | _ => .ok accounts

namespace Node

variable (node : Node)

lemma get_apply : (get : NodeAction Node) node = .ok node node := rfl

lemma set_apply (next : Node) : (set next : NodeAction PUnit) node = .ok ⟨⟩ next := rfl

lemma modify_apply (f : Node → Node) : (modify f : NodeAction PUnit) node = .ok ⟨⟩ (f node) := rfl

lemma pure_apply (a : α) : (pure a : NodeAction α) node = .ok a node := rfl

lemma onLedger_ok (a : α) : onLedger (.ok a) node = .ok a node := rfl

lemma onGame_ok (a : α) : onGame (.ok a) node = .ok a node := rfl

lemma transact_eq (tx : Transaction Bech32Codec Accounts α) :
    transact tx node = .ok (tx.answer node.ledger) { node with ledger := tx.after node.ledger } := by
  simp only [transact, Transaction.answer, Transaction.after]
  cases tx node.ledger <;> rfl

lemma persist_eq :
    persist node =
      match node.keeper.exportGenesis with
      | .error e => .error (.ofGame e) node
      | .ok state => .ok ()
          { node with database := node.database.saveSnapshot node.last node.accounts moduleName state.text } := by
  simp only [persist, action_bind_apply, get_apply]
  cases node.keeper.exportGenesis <;> rfl

lemma fund_eq (text : String) (amount : Amount) :
    fund text amount node =
      match node.address text with
      | .error e => .error (.ofLedger e) node
      | .ok address =>
        match node.accounts.mint address amount with
        | .error e => .error (.ofLedger e) node
        | .ok accounts => .ok (accounts.balance address)
            { node with
              ledger := { node.ledger with bank := accounts }
              database := node.database.saveAccounts accounts } := by
  simp only [fund, action_bind_apply, get_apply]
  cases node.address text with
  | error e => rfl
  | ok address =>
    simp only [onLedger_ok]
    cases node.accounts.mint address amount <;> rfl

lemma deliver_eq (time : Instant) (tx : Block → Transaction Bech32Codec Accounts α) :
    deliver time tx node =
      match node.last.next time with
      | .error e => .error (.ofLedger e) node
      | .ok block =>
        match (tx block).answer node.ledger with
        | .error e => .error (.ofGame e) { node with ledger := (tx block).after node.ledger }
        | .ok output =>
          match persist ⟨block, (Transaction.endRound block).after ((tx block).after node.ledger), node.database⟩ with
          | .error e next => .error e next
          | .ok () next =>
            .ok ⟨block, output, (Transaction.endRound block).answer ((tx block).after node.ledger)⟩ next := by
  simp only [deliver, action_bind_apply, get_apply, pure_apply]
  cases node.last.next time with
  | error e => rfl
  | ok block =>
    simp only [onLedger_ok, transact_eq]
    cases (tx block).answer node.ledger with
    | error e => rfl
    | ok output =>
      simp only [onGame_ok, modify_apply]
      cases persist ⟨block, (Transaction.endRound block).after ((tx block).after node.ledger), node.database⟩ <;> rfl

lemma importGenesis_eq (state : GenesisState) :
    importGenesis state node =
      match Keeper.new node.codec node.keeper.authority ⟨state.params, node.keeper.policy⟩ >>=
          (·.initGenesis state) with
      | .error e => .error (.ofGame e) node
      | .ok keeper =>
        match keeper.outstandingStakes with
        | .error e => .error (.ofGame e) node
        | .ok stakes =>
          match (PoolAdjustment.between node.accounts.pool stakes).apply node.accounts with
          | .error e => .error (.ofLedger e) node
          | .ok accounts =>
            match persist { node with ledger := ⟨keeper, accounts⟩ } with
            | .error e next => .error e next
            | .ok () next => .ok (.between node.accounts.pool stakes) next := by
  simp only [importGenesis, action_bind_apply, get_apply]
  cases Keeper.new node.codec node.keeper.authority ⟨state.params, node.keeper.policy⟩ with
  | error e => rfl
  | ok fresh =>
    simp only [onGame_ok, ok_bind]
    cases fresh.initGenesis state with
    | error e => rfl
    | ok keeper =>
      simp only [onGame_ok]
      cases keeper.outstandingStakes with
      | error e => rfl
      | ok stakes =>
        simp only [onGame_ok]
        cases PoolAdjustment.between node.accounts.pool stakes with
        | matched | surplus =>
          simp only [PoolAdjustment.apply, action_bind_apply, pure_apply, set_apply]
          cases persist { node with ledger := ⟨keeper, node.accounts⟩ } <;> rfl
        | minted amount =>
          simp only [PoolAdjustment.apply, action_bind_apply]
          cases node.accounts.mintPool amount with
          | error e => rfl
          | ok accounts =>
            simp only [onLedger_ok, set_apply]
            cases persist { node with ledger := ⟨keeper, accounts⟩ } <;> rfl

end Node

inductive Submission
  | nothing
  | startGame (player : String) (commitment : Commitment) (fee : Amount)
  | commitMove (id : GameId) (player : String) (commitment : Commitment)
  | revealMove (id : GameId) (player label salt : String)
  | updateParams (authority : String) (params : Params)
  deriving DecidableEq

def Submission.deliver (submission : Submission) (time : Instant) : NodeAction Block :=
  match submission with
  | nothing => Delivery.block <$> Node.deliver time fun _ => pure ()
  | startGame player commitment fee =>
    Delivery.block <$> Node.deliver time fun block => Transaction.startGame block player commitment fee
  | commitMove id player commitment =>
    Delivery.block <$> Node.deliver time fun block => Transaction.commitMove block id player commitment
  | revealMove id player label salt =>
    Delivery.block <$> Node.deliver time fun block => Transaction.revealMove block id player label salt
  | updateParams authority params =>
    Delivery.block <$> Node.deliver time fun _ => Transaction.updateParams authority params

inductive Operation
  | fund (player : String) (amount : Amount)
  | deliver (time : Instant) (submission : Submission)
  | importGenesis (state : GenesisState)
  deriving DecidableEq

namespace Operation

def apply (operation : Operation) : Node → Node :=
  match operation with
  | fund player amount => (Node.fund player amount).after
  | deliver time submission => (submission.deliver time).after
  | importGenesis state => (Node.importGenesis state).after

def run (operations : List Operation) (node : Node) : Node := operations.foldl (fun node op => op.apply node) node

end Operation

end Roshambo
