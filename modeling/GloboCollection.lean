import GloboCollection.Lib.Run
import GloboCollection.Lib.Settle
import GloboCollection.Lib.Trace
import GloboCollection.Lib.Lists
import GloboCollection.Lib.ArrayUnion
import GloboCollection.Lib.Decimal
import GloboCollection.Lib.Containers
import GloboCollection.Lib.Owners
import GloboCollection.Lib.Relabel
import GloboCollection.Lib.Contexts
import GloboCollection.Lib.Regex
import GloboCollection.App.Catalogue
import GloboCollection.App.Defaults
import GloboCollection.App.Scores
import GloboCollection.App.Ranking
import GloboCollection.App.Screens
import GloboCollection.App.Device
import GloboCollection.App.World
import GloboCollection.App.Shell
import GloboCollection.App.Utilities
import GloboCollection.Spec.Album
import GloboCollection.Spec.Memory
import GloboCollection.Proofs.LostUpdate
import GloboCollection.Proofs.Redeem
import GloboCollection.Proofs.Keys
import GloboCollection.Proofs.Ranking
import GloboCollection.Proofs.RankingLoad
import GloboCollection.Proofs.Steps
import GloboCollection.Proofs.Survivors
import GloboCollection.Proofs.Settling
import GloboCollection.Proofs.Requests
import GloboCollection.Proofs.Turns
import GloboCollection.Proofs.Accounts
import GloboCollection.Proofs.Sessions
import GloboCollection.Proofs.Gate
import GloboCollection.Proofs.Pages
import GloboCollection.Proofs.Integrity
import GloboCollection.Proofs.Album
import GloboCollection.Proofs.Paths
import GloboCollection.Proofs.Trapped
import GloboCollection.Proofs.DeadEnds
import GloboCollection.Proofs.FirstSession
import GloboCollection.Proofs.Plays
import GloboCollection.Proofs.Erasure
import GloboCollection.Proofs.SharedDevice
import GloboCollection.Proofs.Quiz
import GloboCollection.Proofs.Reset
import GloboCollection.Proofs.Memory
import GloboCollection.Proofs.HalfDone
import GloboCollection.Proofs.Lifecycle
import GloboCollection.Proofs.Records
import GloboCollection.Proofs.Password
