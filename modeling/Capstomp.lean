import Capstomp.General.Transition
import Capstomp.SettingsWindow
import Capstomp.Confirmation
import Capstomp.Steps
import Capstomp.ExactlyOnce
import Capstomp.Draining
import Capstomp.TransactionIntegrity
import Capstomp.Endpoint
import Capstomp.CommitOrder
import Capstomp.EveryConnection
import Capstomp.ParkedClean
import Capstomp.LoggedOn
import Capstomp.Store
import Capstomp.Reuse
import Capstomp.Erasure
import Capstomp.WholeOperations
import Capstomp.Uncommited
import Capstomp.SocketBudget
import Capstomp.PoolCount
import Capstomp.Descriptors
import Capstomp.IdleSocket
import Capstomp.Headers
import Capstomp.Configured
import Capstomp.AlwaysOk
import Capstomp.ForceCommit
import Capstomp.PeriodicConfirmation
import Capstomp.Conf
import Capstomp.WholeFrame
import Capstomp.ReleasePaths
import Capstomp.Status
import Capstomp.Delivery
import Capstomp.TransactionNames
import Capstomp.Publication
import Capstomp.Movers
import Capstomp.Completion
import Capstomp.Streams
import Capstomp.Uncut
import Capstomp.Conformance
import Capstomp.OpenSockets
import Capstomp.Routing
import Capstomp.StoreCompletion
import Capstomp.Administration
import Capstomp.Statements
