import SkynetCpp.Foundation.Run
import SkynetCpp.Foundation.Fifo
import SkynetCpp.Foundation.Chain
import SkynetCpp.Foundation.Threads
import SkynetCpp.Foundation.Bits
import SkynetCpp.Foundation.Agenda
import SkynetCpp.Message
import SkynetCpp.MessageQueue
import SkynetCpp.MessageQueueFifo
import SkynetCpp.Timer
import SkynetCpp.TimerBlocks
import SkynetCpp.TimerWheel
import SkynetCpp.RwLock
import SkynetCpp.System
import SkynetCpp.Handle
import SkynetCpp.Service
import SkynetCpp.Delivery
import SkynetCpp.GlobalQueue
import SkynetCpp.Dispatch
import SkynetCpp.DispatchOrder
import SkynetCpp.HandleGrowth
import SkynetCpp.Launch
import SkynetCpp.HandleFrame
import SkynetCpp.HandleTable
import SkynetCpp.Runtime
import SkynetCpp.References
import SkynetCpp.RuntimeReferences
import SkynetCpp.Scheduling
import SkynetCpp.RuntimeScheduling
import SkynetCpp.Foundation.Chains
import SkynetCpp.Databuffer
import SkynetCpp.Foundation.Framing
import SkynetCpp.ServiceCalls
import SkynetCpp.DatabufferFifo
import SkynetCpp.Gate
import SkynetCpp.Foundation.BigEndian
import SkynetCpp.GateFrames
import SkynetCpp.Harbor
import SkynetCpp.HarborFrames
import SkynetCpp.HarborParser
import SkynetCpp.HarborCuts
import SkynetCpp.HarborDefects
import SkynetCpp.HarborRoundTrip
import SkynetCpp.GateRun
import SkynetCpp.SocketRequest
import SkynetCpp.ControlPipe
import SkynetCpp.Foundation.Program
import SkynetCpp.Socket
import SkynetCpp.SocketSend
import SkynetCpp.SocketControl
import SkynetCpp.SocketPoll
import SkynetCpp.SocketCalls
import SkynetCpp.SocketWorkers
import SkynetCpp.Foundation.SortedTable
import SkynetCpp.HandleNames
import SkynetCpp.QueueRelease
import SkynetCpp.TimerLock
import SkynetCpp.TimerRace
import SkynetCpp.GateTable
import SkynetCpp.Command
import SkynetCpp.Foundation.Ring
import SkynetCpp.Foundation.Buckets
import SkynetCpp.HarborQueue
import SkynetCpp.SocketClose
import SkynetCpp.SocketEvents
import SkynetCpp.SocketRuns
import SkynetCpp.HarborService
import SkynetCpp.HarborServiceCalls
import SkynetCpp.HarborNames
import SkynetCpp.HarborServiceSteps
import SkynetCpp.HarborMainloop
import SkynetCpp.HarborRun
import SkynetCpp.HarborOrder
import SkynetCpp.HarborHandover
import SkynetCpp.Foundation.Ownership
import SkynetCpp.Foundation.Simulation
import SkynetCpp.SocketAccounting
import SkynetCpp.Start
import SkynetCpp.Shutdown
import SkynetCpp.HarborStates
import SkynetCpp.HarborAlike
import SkynetCpp.HarborMemory
import SkynetCpp.HarborReconnect
import SkynetCpp.RemoteSend
import SkynetCpp.Locality
import SkynetCpp.ContextTotal
import SkynetCpp.LaunchOutcome
import SkynetCpp.SocketSteps
import SkynetCpp.SocketParameters
import SkynetCpp.Foundation.Scan
import SkynetCpp.HandleProbe
import SkynetCpp.TimerOrder
import SkynetCpp.TimerMemory
import SkynetCpp.CommandTimeout
import SkynetCpp.SocketReserve
import SkynetCpp.HandleRetireall
import SkynetCpp.HandleLock
import SkynetCpp.SocketSetup
import SkynetCpp.Foundation.Loop
import SkynetCpp.Foundation.Refinement
import SkynetCpp.SocketRefinement
import SkynetCpp.SocketInterest
import SkynetCpp.SocketInterestHandlers
import SkynetCpp.SocketPolling
import SkynetCpp.SocketInterestSetup
import SkynetCpp.SocketInterestRuns
import SkynetCpp.HarborLimits
import SkynetCpp.HarborCookies
import SkynetCpp.HarborGlobalNames
import SkynetCpp.GateHeaders
import SkynetCpp.GateAlignment
import SkynetCpp.SocketZero
import SkynetCpp.SocketOutcome
import SkynetCpp.SocketUdpAddress
import SkynetCpp.SocketRemainder
import SkynetCpp.SocketDatagrams
import SkynetCpp.SocketWarnings
import SkynetCpp.SocketBound
import SkynetCpp.Foundation.Block
import SkynetCpp.Foundation.Utf8
import SkynetCpp.GateWatchdog
import SkynetCpp.GateControl
import SkynetCpp.GateCallback
import SkynetCpp.SocketForward
import SkynetCpp.CommandWords
import SkynetCpp.ErrorLog
import SkynetCpp.DatabufferRuns
import SkynetCpp.ModuleQuery
import SkynetCpp.HashidRuns
import SkynetCpp.GateLimits
import SkynetCpp.HarborQueueFifo
import SkynetCpp.GlobalQueueRuns
import SkynetCpp.HashidShape
import SkynetCpp.HashidSearch
import SkynetCpp.QueueOverload
import SkynetCpp.Foundation.Paths
import SkynetCpp.Foundation.Routine
import SkynetCpp.SocketLock
import SkynetCpp.SocketLockSteps
import SkynetCpp.SocketLockBalance
import SkynetCpp.TimerStall
import SkynetCpp.TimerClock
import SkynetCpp.Spinlock
import SkynetCpp.RuntimeFrame
import SkynetCpp.Boot
import SkynetCpp.SnluaSignal
import SkynetCpp.Undelivered
import SkynetCpp.HandleLeak
import SkynetCpp.SnluaMemory
import SkynetCpp.SnluaProfile
import SkynetCpp.SocketOpening
