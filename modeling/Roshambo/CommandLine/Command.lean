import Roshambo.CommandLine.Reader
import Roshambo.Game.Record
import Roshambo.Params

namespace Roshambo.CommandLine

inductive Command
  | newAccount
  | fund (address : String) (amount : Amount)
  | balance (address : String)
  | listAccounts
  | newGame (player label : String) (fee : Amount) (salt : Option String)
  | commitMove (player : String) (game : GameId) (label : String) (salt : Option String)
  | revealMove (player : String) (game : GameId) (label salt : String)
  | tick
  | listGames
  | showGame (game : GameId)
  | showCount
  | showParams
  | showPending
  | updateParams (authority : String) (params : Params)
  | exportGenesis (file : Option String)
  | importGenesis (file : String)
  deriving DecidableEq

structure Request where
  folder : Option String
  time : Option Int
  verbose : Bool
  command : Command
  deriving DecidableEq

namespace Request

def folderSwitch : Switch :=
  ⟨"data-dir", some 'd', some ("DATA_DIR", .path), "Data directory for ledger storage"⟩

def verboseSwitch : Switch := ⟨"verbose", some 'v', none, "Verbose output"⟩

def timeSwitch : Switch := ⟨"at", none, some ("AT", .integer), "Block time as unix seconds (defaults to now)"⟩

def saltSwitch : Switch := ⟨"salt", none, some ("SALT", .text), "Salt to hide the move (random if omitted)"⟩

def new (m : Matches) (command : Command) : Request :=
  ⟨m.text? folderSwitch.long, m.integer? timeSwitch.long, m.isOn verboseSwitch.long, command⟩

def entry (name about : String) (arguments : List Argument) (meaning : List Value → Option Command) :
    Entry Request :=
  .command name about arguments [] fun m => (meaning m.arguments).map (new m)

def bare (name about : String) (command : Command) : Entry Request := entry name about [] fun _ => some command

def salted (name about : String) (arguments : List Argument)
    (meaning : List Value → Option String → Option Command) : Entry Request :=
  .command name about arguments [saltSwitch] fun m =>
    (meaning m.arguments (m.text? saltSwitch.long)).map (new m)

def address : Argument := ⟨"ADDRESS", .text, "Account address", true⟩

def gameId : Argument := ⟨"GAME_ID", .word, "Game ID", true⟩

def player (about : String) : Argument := ⟨"PLAYER", .text, about, true⟩

def label (about : String) : Argument := ⟨"MOVE", .text, about, true⟩

def accountEntries : List (Entry Request) :=
  [bare "new" "Generate a new account address" .newAccount,
    entry "fund" "Credit an account from the faucet" [address, ⟨"AMOUNT", .word, "Amount in satoshis", true⟩] fun
      | [.text address, .word sats] => some (.fund address ⟨sats⟩)
      | _ => none,
    entry "balance" "Show an account balance" [address] fun
      | [.text address] => some (.balance address)
      | _ => none,
    bare "list" "List all balances and the staking pool" .listAccounts]

def genesisEntries : List (Entry Request) :=
  [entry "export" "Write the module state as genesis JSON"
      [⟨"FILE", .path, "Output file (stdout if omitted)", false⟩] fun
      | [.text file] => some (.exportGenesis (some file))
      | _ => some (.exportGenesis none),
    entry "import" "Replace the module state from a genesis JSON file"
      [⟨"FILE", .path, "Genesis file to read", true⟩] fun
      | [.text file] => some (.importGenesis file)
      | _ => none]

def gameEntries : List (Entry Request) :=
  [salted "new-game" "Start a new game with a hidden move"
      [player "Creator address", label "rock, paper or scissors",
        ⟨"FEE", .word, "Entry fee in satoshis", true⟩] fun
      | [.text player, .text label, .word fee], salt => some (.newGame player label ⟨fee⟩ salt)
      | _, _ => none,
    salted "commit-move" "Join an open game with a hidden move"
      [player "Player address", gameId, label "rock, paper or scissors"] fun
      | [.text player, .word game, .text label], salt => some (.commitMove player game label salt)
      | _, _ => none,
    entry "reveal-move" "Reveal a committed move"
      [player "Player address", gameId, label "Move that was committed",
        ⟨"SALT", .text, "Salt printed at commit time", true⟩] fun
      | [.text player, .word game, .text label, .text salt] => some (.revealMove player game label salt)
      | _ => none,
    bare "tick" "Produce an empty block and settle due games" .tick,
    bare "games" "List open games" .listGames,
    entry "game" "Show one game with its commits and reveals" [gameId] fun
      | [.word game] => some (.showGame game)
      | _ => none,
    bare "count" "Show the lifetime game counter" .showCount]

def paramsEntries : List (Entry Request) :=
  [bare "params" "Show module params" .showParams,
    bare "pending" "Preview which games the next block would settle" .showPending,
    entry "update-params" "Change the commit and reveal windows (authority only)"
      [⟨"AUTHORITY", .text, "Authority address", true⟩,
        ⟨"COMMIT_WINDOW", .word, "Commit window in seconds", true⟩,
        ⟨"REVEAL_WINDOW", .word, "Reveal window in seconds", true⟩] fun
      | [.text authority, .word commit, .word reveal] => some (.updateParams authority ⟨commit, reveal⟩)
      | _ => none]

def grammar : Grammar Request where
  root := .group "rps" "Commit-reveal rock-paper-scissors on a local ledger"
    ([.group "account" "Account management commands" accountEntries] ++ gameEntries ++ paramsEntries ++
      [.group "genesis" "Genesis import and export" genesisEntries])
  common := [folderSwitch, verboseSwitch, timeSwitch]
  version := "0.1.0"

end Request

end Roshambo.CommandLine
