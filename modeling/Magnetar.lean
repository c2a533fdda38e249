import Magnetar.Proto.Consumer.Broker
import Magnetar.Proto.Connection.Window
import Magnetar.Proto.Connection.Refund
import Magnetar.Proto.Connection.Grants
import Magnetar.Proto.Consumer.Sizing
import Magnetar.Proto.Connection.Receive
import Magnetar.Proto.Connection.Transmit
import Magnetar.Proto.Connection.Ledger
import Magnetar.Proto.Trackers.Windows
import Magnetar.Proto.Connection.GroupedAcks
import Magnetar.Proto.Connection.NegativeAcks
import Magnetar.Proto.Connection.TransactionalAcks
import Magnetar.Proto.Connection.Outcomes
import Magnetar.Proto.Connection.LookupSlots
import Magnetar.Proto.Connection.Seeks
import Magnetar.Proto.Connection.Termination
import Magnetar.Proto.Connection.BatchAcks
import Magnetar.Runtime.Receive
import Magnetar.Proto.Stream.Batches
import Magnetar.Proto.Connection.ChunkedSends
import Magnetar.Proto.MemoryLimit.Wakeups
import Magnetar.Proto.Connection.Readiness
import Magnetar.Proto.Stream.Chunks
import Magnetar.Proto.Stream.Transaction
import Magnetar.Proto.Connection.Keepalive
import Magnetar.Proto.Connection.Events
import Magnetar.Proto.Txn.Lifecycle
import Magnetar.PartitionedProducer
import Magnetar.Proto.Backoff
