import TrafficLimitd.RunInvariant
import TrafficLimitd.CircularList
import TrafficLimitd.Coroutine
import TrafficLimitd.CoroutineRuns
import TrafficLimitd.CoroutineRefinement
import TrafficLimitd.CoroutineTriples
import TrafficLimitd.Ownership
import TrafficLimitd.Pacing
import TrafficLimitd.LeastRecent
import TrafficLimitd.CScan
import TrafficLimitd.CText
import TrafficLimitd.Tokens
import TrafficLimitd.Records
import TrafficLimitd.Protocol
import TrafficLimitd.LimiterProgram
import TrafficLimitd.LimiterDelay
import TrafficLimitd.LimiterExact
import TrafficLimitd.LimiterConformance
import TrafficLimitd.LimiterBacklog
import TrafficLimitd.LimiterRace
import TrafficLimitd.StreamProgram
import TrafficLimitd.StreamTruth
import TrafficLimitd.StreamTerminal
import TrafficLimitd.StreamTimer
import TrafficLimitd.SchedulerProgram
import TrafficLimitd.SchedulerQueues
import TrafficLimitd.SchedulerRefinement
import TrafficLimitd.SchedulerLifetime
import TrafficLimitd.SchedulerEvents
import TrafficLimitd.SchedulerStacks
import TrafficLimitd.SchedulerSimulation
import TrafficLimitd.HandlerEffects
import TrafficLimitd.BusProgram
import TrafficLimitd.JobProgram
import TrafficLimitd.JobRefinement
import TrafficLimitd.JobWait
import TrafficLimitd.HandlerProgram
import TrafficLimitd.HandlerCalls
import TrafficLimitd.HandlerPath
import TrafficLimitd.HandlerScope
import TrafficLimitd.HandlerLedger
import TrafficLimitd.HandlerDuties
import TrafficLimitd.HeapProgram
import TrafficLimitd.HeapOwnership
import TrafficLimitd.HeapHandler
import TrafficLimitd.HeapTask
import TrafficLimitd.HeapRefinement
import TrafficLimitd.HeapSimulation
import TrafficLimitd.CgroupLookup
import TrafficLimitd.Custody
import TrafficLimitd.DaemonRoster
import TrafficLimitd.DaemonAccounts
import TrafficLimitd.DaemonProgram
import TrafficLimitd.DaemonTasks
import TrafficLimitd.DaemonOrder
import TrafficLimitd.DaemonConfinement
import TrafficLimitd.HandlerExit
import TrafficLimitd.DaemonExit
import TrafficLimitd.HandlerOrigin
import TrafficLimitd.HandlerVigil
import TrafficLimitd.HandlerSources
import TrafficLimitd.HandlerLength
import TrafficLimitd.DaemonVigil
import TrafficLimitd.DaemonLoop
import TrafficLimitd.DaemonWorld
import TrafficLimitd.DaemonRecursion
import TrafficLimitd.DaemonScheduling
import TrafficLimitd.DaemonSimulation
import TrafficLimitd.DaemonWork
import TrafficLimitd.DaemonProgress
import TrafficLimitd.LimiterEviction
import TrafficLimitd.LimiterIsolation
import TrafficLimitd.ClientOptions
import TrafficLimitd.ClientRates
import TrafficLimitd.ClientWait
import TrafficLimitd.ClientProgram
import TrafficLimitd.ClientDecoder
import TrafficLimitd.ClientTimeout
import TrafficLimitd.RtnlProgram
import TrafficLimitd.RtnlReceive
import TrafficLimitd.RtnlTalk
import TrafficLimitd.RtnlBounds
import TrafficLimitd.IfaceProps
import TrafficLimitd.TcAttributes
import TrafficLimitd.TcProgram
import TrafficLimitd.TcSetup
import TrafficLimitd.TcNames
import TrafficLimitd.Listener
import TrafficLimitd.HandlerDescriptor
import TrafficLimitd.ConnectionProgram
import TrafficLimitd.ConnectionDescriptor
import TrafficLimitd.HandlerRequest
import TrafficLimitd.Messages
import TrafficLimitd.HandlerSpeech
import TrafficLimitd.ConnectionWire
import TrafficLimitd.ConnectionVerdict
import TrafficLimitd.HandlerHearing
import TrafficLimitd.SystemProgram
import TrafficLimitd.SystemRequest
import TrafficLimitd.SystemTraffic
