import Roshambo.Bank.Freezable
import Roshambo.CommandLine.Files
import Roshambo.Main
import Roshambo.Proofs.SortedMap
import Roshambo.Proofs.Records
import Roshambo.Proofs.Accounts
import Roshambo.Proofs.Calls
import Roshambo.Proofs.Round
import Roshambo.Proofs.Steps
import Roshambo.Proofs.WellFormed
import Roshambo.Proofs.GenesisValidity
import Roshambo.Proofs.GenesisLoading
import Roshambo.Proofs.Reachability
import Roshambo.Proofs.Payouts
import Roshambo.Proofs.Stakes
import Roshambo.Proofs.Solvency
import Roshambo.Proofs.Refusals
import Roshambo.Proofs.Preview
import Roshambo.Proofs.Atomicity
import Roshambo.Proofs.Payments
import Roshambo.Proofs.Batches
import Roshambo.Proofs.Delays
import Roshambo.Proofs.Histories
import Roshambo.Proofs.Lifetimes
import Roshambo.Proofs.Openings
import Roshambo.Proofs.Fairness
import Roshambo.Proofs.Checksum
import Roshambo.Proofs.Regrouping
import Roshambo.Proofs.AddressTexts
import Roshambo.Proofs.Spellings
import Roshambo.Proofs.Snapshots
import Roshambo.Proofs.Decimals
import Roshambo.Proofs.JsonTexts
import Roshambo.Proofs.JsonFields
import Roshambo.Proofs.Calendar
import Roshambo.Proofs.Timestamps
import Roshambo.Proofs.SnapshotTexts
import Roshambo.Proofs.StoredRows
import Roshambo.Proofs.PersistedTexts
import Roshambo.Proofs.Operations
import Roshambo.Proofs.Restarts
import Roshambo.Proofs.Sessions
import Roshambo.Proofs.Invocations
import Roshambo.Proofs.Clock
import Roshambo.Proofs.Instants
import Roshambo.Proofs.Frames
import Roshambo.Proofs.WriteOnce
import Roshambo.Proofs.Chronology
import Roshambo.Proofs.Durability
import Roshambo.Proofs.Backing
import Roshambo.Proofs.Deeds
import Roshambo.Proofs.Independence
import Roshambo.Proofs.Authority
import Roshambo.Proofs.Endings
import Roshambo.Proofs.Distribution
import Roshambo.Proofs.Stores
import Roshambo.Proofs.Waiting
import Roshambo.Proofs.Completion
import Roshambo.Proofs.Windows
import Roshambo.Proofs.Acceptance
import Roshambo.Proofs.Bookkeeping
import Roshambo.Proofs.Canonical
import Roshambo.Proofs.Listings
import Roshambo.Proofs.Deadlines
import Roshambo.Proofs.LatestWrites
