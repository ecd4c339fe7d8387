import EventHandler.Lib.Transition
import EventHandler.Lib.Odometer
import EventHandler.Insert
import EventHandler.Remove
import EventHandler.PickLoop
import EventHandler.Pick
import EventHandler.GetEvent
import EventHandler.QueueSystem
import EventHandler.Ledger
import EventHandler.Order
import EventHandler.Starvation
import EventHandler.FrontCache
import EventHandler.PendingVsync
import EventHandler.Sleep
import EventHandler.IoWaiter
import EventHandler.WaitSystem
import EventHandler.WakeUp
import EventHandler.VsyncPolicy
import EventHandler.BarrierMode
import EventHandler.VipBarrier
import EventHandler.Deadline
import EventHandler.FileDescriptors
import EventHandler.Listeners
import EventHandler.Runner
import EventHandler.RunnerStop
import EventHandler.ThreadCollector
import EventHandler.ThreadJoin
import EventHandler.Emitter
import EventHandler.OnceListener
import EventHandler.FfrtQueue
import EventHandler.FfrtSelect
import EventHandler.CjEmitter
import EventHandler.IdlePick
import EventHandler.CjDispatch
import EventHandler.AniManager
import EventHandler.EmitPriority
import EventHandler.AniWorker
import EventHandler.AniIsolation
import EventHandler.EnhancedEmitter
import EventHandler.EnhancedSystem
import EventHandler.OnceEnhanced
import EventHandler.AfterOff
import EventHandler.Subscriptions
import EventHandler.RunningEvent
import EventHandler.HistoryRing
import EventHandler.WaiterTables
import EventHandler.ListenerAtomicity
import EventHandler.NumericId
import EventHandler.SyncWaiter
import EventHandler.Lib.Checked
import EventHandler.SendTime
import EventHandler.FfrtDelay
import EventHandler.PreemptHint
import EventHandler.VsyncCheckTime
import EventHandler.ForceWindow
import EventHandler.HandlerId
import EventHandler.PendingQuery
import EventHandler.PollBackOff
import EventHandler.PriorityIndex
import EventHandler.Lib.Ownership
import EventHandler.NestedDispatch
import EventHandler.Payload
import EventHandler.VipObserver
import EventHandler.DescriptorService
import EventHandler.FdDelivery
import EventHandler.Lib.WaitsFor
import EventHandler.RunnerWaits
import EventHandler.CurrentRunner
import EventHandler.DeamonStop
import EventHandler.EmitOrder
import EventHandler.HandlerFates
import EventHandler.Lib.Ruler
import EventHandler.Schedule
import EventHandler.NoWaitMode
import EventHandler.SleepTime
import EventHandler.DeamonInit
import EventHandler.SharedDeamon
