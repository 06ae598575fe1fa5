import Roshambo.CommandLine.Command
import Roshambo.CommandLine.Session
import Roshambo.CommandLine.Summary

namespace Roshambo.CommandLine

structure Surroundings where
  now : Instant
  noise : List UInt8
  folder : String

def accountSize : Nat := 20

variable {m : Type → Type} [Monad m] [Disk m]

namespace Shell

def deliver {α : Type} (time : Instant) (tx : Block → Transaction Bech32Codec Accounts α)
    (lines : Delivery α → Node → List String) : Shell m Unit := do
  let delivery ← perform (Node.deliver time tx)
  let node ← node
  sayAll (lines delivery node)
  let report ← ofExcept delivery.report
  sayAll (reportLines node.codec report)

def newAccount (noise : List UInt8) : Shell m Unit := do
  let account ← onLedger ((← node).codec.encode ⟨noise.take accountSize⟩)
  sayAll [s!"New account: {account}", "", "Fund it with:", s!"rps account fund {account} <sats>"]

def fund (address : String) (amount : Amount) : Shell m Unit := do
  let balance ← perform (Node.fund address amount)
  sayAll [s!"Funded {address} with {amount} sats", s!"Balance: {balance} sats"]

def balance (address : String) : Shell m Unit := do
  let balance ← onLedger ((← node).balance address)
  say s!"{address}: {balance} sats"

def readMove (label : String) : Shell m Move :=
  match Move.ofLabel? label with
  | some move => pure move
  | none => throw (.ofGame (.invalidMove label))

def newGame (time : Instant) (player label : String) (fee : Amount) (salt : String) : Shell m Unit := do
  let commitment := Commitment.of (← readMove label) salt
  deliver time (fun block => Transaction.startGame block player commitment fee) fun d _ =>
    [s!"Created game {d.output.toNat} at block {d.block.height.toNat}", s!"Entry fee: {fee} sats",
      s!"Commitment: {commitment.text}", s!"Salt: {salt}", "Keep the salt secret until you reveal.", "",
      "Share this command with another player:",
      s!"rps commit-move <their-address> {d.output.toNat} <move>"]

def commitMove (time : Instant) (player : String) (game : GameId) (label salt : String) : Shell m Unit := do
  let move ← readMove label
  let commitment := Commitment.of move salt
  deliver time (fun block => Transaction.commitMove block game player commitment) fun d _ =>
    [s!"Committed to game {game.toNat} at block {d.block.height.toNat}", s!"Commitment: {commitment.text}",
      s!"Salt: {salt}", "", "Both players can now reveal:",
      s!"rps reveal-move {player} {game.toNat} {move.label} {salt}"]

def revealMove (time : Instant) (player : String) (game : GameId) (label salt : String) : Shell m Unit :=
  deliver time (fun block => Transaction.revealMove block game player label salt) fun d node =>
    let deadline := (node.keeper.store.game? game).bind (·.revealDeadline)
    s!"Revealed {label} in game {game.toNat} at block {d.block.height.toNat}" ::
      (deadline.map fun t => s!"Reveal window closes at {t.tabular}").toList

def tick (time : Instant) : Shell m Unit :=
  deliver time (fun _ => pure ()) fun d _ =>
    let idle := match d.report with
      | .ok report => report.isEmpty
      | .error _ => false
    s!"Block {d.block.height.toNat} at {d.block.time.spoken}" ::
      if idle then ["No games due for settlement."] else []

def listGames : Shell m Unit := do
  let store := (← node).keeper.store
  if store.games.isEmpty then say "No open games."
  else sayAll ((gameTable store).lines ++ [s!"Total: {store.games.size} open games"])

def showGame (id : GameId) : Shell m Unit := do
  let keeper := (← node).keeper
  let game ← onGame (keeper.findGame id)
  sayAll (gameLines keeper.codec keeper.store game)

def showCount : Shell m Unit := do
  let store := (← node).keeper.store
  sayAll [s!"Games created: {store.nextId.toNat}", s!"Open games: {store.games.size}"]

def showParams : Shell m Unit := do
  let keeper := (← node).keeper
  sayAll (windowLines keeper.params ++
    [s!"Authority: {keeper.authority}", s!"Settlement policy: {keeper.policy.title}"])

def showPending (time : Instant) : Shell m Unit := do
  let node ← node
  let (store, settled) ← onGame (node.pending time)
  if settled.isEmpty then say s!"No games due for settlement at {time.tabular}."
  else
    say s!"At {time.tabular} the next block would settle {settled.length} games:"
    sayAll (settled.map (settlementLine node.codec))
    say s!"{store.games.size} games would remain open"

def updateParams (time : Instant) (authority : String) (params : Params) : Shell m Unit :=
  deliver time (fun _ => Transaction.updateParams authority params) fun d _ =>
    s!"Params updated at block {d.block.height.toNat}" :: windowLines params

def exportGenesis (file : Option String) : Shell m Unit := do
  let state ← onGame (← node).keeper.exportGenesis
  let text := state.toJson.pretty
  match file with
  | none => say text
  | some file =>
    request "writing" file (Disk.writeText file text)
    say s!"Exported {state.games.length} games to {file}"

def adjustmentLines : PoolAdjustment → List String
  | .matched => []
  | .minted amount => [s!"Minted {amount} sats into the pool to back imported stakes"]
  | .surplus amount => [s!"Pool keeps {amount} sats not staked by any game"]

def importGenesis (file : String) : Shell m Unit := do
  let text ← request "reading" file (Disk.readText file)
  let some state := GenesisState.ofText? text | throw ⟨[], .other s!"parsing {file}"⟩
  let adjustment ← perform (Node.importGenesis state)
  say s!"Imported {state.games.length} games from {file}"
  say s!"Next game id: {(← node).keeper.store.nextId.toNat}"
  sayAll (adjustmentLines adjustment)

def execute (around : Surroundings) (time : Instant) : Command → Shell m Unit
  | .newAccount => newAccount around.noise
  | .fund address amount => fund address amount
  | .balance address => balance address
  | .listAccounts => do sayAll (accountTable (← node)).lines
  | .newGame player label fee salt => newGame time player label fee (salt.getD (Hex.encode around.noise))
  | .commitMove player game label salt =>
    commitMove time player game label (salt.getD (Hex.encode around.noise))
  | .revealMove player game label salt => revealMove time player game label salt
  | .tick => tick time
  | .listGames => listGames
  | .showGame id => showGame id
  | .showCount => showCount
  | .showParams => showParams
  | .showPending => showPending time
  | .updateParams authority params => updateParams time authority params
  | .exportGenesis file => exportGenesis file
  | .importGenesis file => importGenesis file

end Shell

end Roshambo.CommandLine
