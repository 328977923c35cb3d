import GameLibrary.Fetch.Script
import GameLibrary.Library.Service
import GameLibrary.Main
import GameLibrary.Proofs.Cache.Abandoned
import GameLibrary.Proofs.Cache.Accounting
import GameLibrary.Proofs.Cache.Aftermath
import GameLibrary.Proofs.Cache.Bystanders
import GameLibrary.Proofs.Cache.Endings
import GameLibrary.Proofs.Cache.Invalidation
import GameLibrary.Proofs.Cache.Isolation
import GameLibrary.Proofs.Cache.Memory
import GameLibrary.Proofs.Cache.Partial
import GameLibrary.Proofs.Cache.Provenance
import GameLibrary.Proofs.Cache.Removal
import GameLibrary.Proofs.Cache.Restarts
import GameLibrary.Proofs.Cache.Scenes
import GameLibrary.Proofs.Cache.Shares
import GameLibrary.Proofs.Cache.Sharing
import GameLibrary.Proofs.Cache.SingleFlight
import GameLibrary.Proofs.Cache.Slices
import GameLibrary.Proofs.Cache.Staleness
import GameLibrary.Proofs.Cache.Window
import GameLibrary.Proofs.CommandLine.Breakdowns
import GameLibrary.Proofs.Fetch.Answering
import GameLibrary.Proofs.Fetch.Batching
import GameLibrary.Proofs.Fetch.Outcome
import GameLibrary.Proofs.Fetch.Permits
import GameLibrary.Proofs.Fetch.Runs
import GameLibrary.Proofs.Fetch.Tasks
import GameLibrary.Proofs.Filter.Bands
import GameLibrary.Proofs.Filter.Registration
import GameLibrary.Proofs.Filter.Windows
import GameLibrary.Proofs.Key.Identity
import GameLibrary.Proofs.Library.Deadlines
import GameLibrary.Proofs.Library.Membership
import GameLibrary.Proofs.Library.Queries
import GameLibrary.Proofs.Library.Rehearsed
import GameLibrary.Proofs.Popularity.Health
import GameLibrary.Proofs.Popularity.Merging
import GameLibrary.Proofs.Query.LetterCase
import GameLibrary.Proofs.Store.Ageing
import GameLibrary.Proofs.Store.Available
import GameLibrary.Proofs.Store.Capacity
import GameLibrary.Proofs.Store.Codec
import GameLibrary.Proofs.Store.Keyed
import GameLibrary.Proofs.Store.LastWrites
import GameLibrary.Proofs.Store.Ledger
import GameLibrary.Proofs.Store.Mirrors
import GameLibrary.Proofs.Store.Names
import GameLibrary.Proofs.Store.Restoring
import GameLibrary.Proofs.Store.Sharding
import GameLibrary.Proofs.Store.Untorn
import GameLibrary.Store.Gate
