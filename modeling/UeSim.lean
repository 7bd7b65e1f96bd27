import UeSim.Support.Transition
import UeSim.Support.NetworkOrder
import UeSim.Support.ByteCursor
import UeSim.Support.EventQueue
import UeSim.Support.FifoServer
import UeSim.Support.RoundRobin
import UeSim.Support.DelimitedText
import UeSim.Support.NestedLoops
import UeSim.Support.LeastLoaded
import UeSim.Support.Pieces
import UeSim.Support.KeyedMap
import UeSim.Support.Reservations
import UeSim.Support.Reassembly
import UeSim.Support.WeightedList
import UeSim.Support.PriorityQueue
import UeSim.Support.BinaryHeap
import UeSim.Common.Types
import UeSim.Common.PacketTags
import UeSim.Config.SimulationConfig
import UeSim.Config.Topology
import UeSim.Config.ForwardingTables
import UeSim.Config.TruthPlan
import UeSim.Config.StripedPlan
import UeSim.Config.FlowFile
import UeSim.Config.TruthBudgets
import UeSim.Pds.PdcTables
import UeSim.Pds.PdcDispatch
import UeSim.Pdc.Ipdc
import UeSim.Pdc.IpdcSystem
import UeSim.Pdc.IpdcRuns
import UeSim.Pdc.Tpdc
import UeSim.Pdc.TpdcSystem
import UeSim.Pdc.Timeouts
import UeSim.Pdc.Reception
import UeSim.Pdc.SequenceWrap
import UeSim.Pdc.WireSizes
import UeSim.Pdc.Delivery
import UeSim.Pdc.NumberAccounts
import UeSim.Pdc.Pair
import UeSim.Pdc.Conservation
import UeSim.Pds.Budget
import UeSim.Pds.ByteCoverage
import UeSim.Pds.ReceiveState
import UeSim.Pds.Receive
import UeSim.Pds.System
import UeSim.Pds.Encounters
import UeSim.Pds.Steps
import UeSim.Pds.Gathering
import UeSim.Pds.MessageStages
import UeSim.Pds.ResourceAccounting
import UeSim.Pds.TargetWrites
import UeSim.Pds.ReadTargets
import UeSim.Pds.CompletedSends
import UeSim.Pds.SendReplays
import UeSim.Pds.ReadReception
import UeSim.Ses.BlockedPeers
import UeSim.Ses.State
import UeSim.Ses.Dispatch
import UeSim.Ses.Requests
import UeSim.Ses.Responder
import UeSim.Ses.System
import UeSim.Ses.Effects
import UeSim.Ses.Steps
import UeSim.Ses.BudgetConservation
import UeSim.Ses.Frames
import UeSim.Ses.Cargo
import UeSim.Ses.BlockedQueue
import UeSim.Ses.DispatchCalls
import UeSim.Ses.AdmissionOrder
import UeSim.Ses.QueueService
import UeSim.Ses.Fragmentation
import UeSim.Ses.Admission
import UeSim.Ses.Refusals
import UeSim.Ses.Releases
import UeSim.Ses.Wakeup
import UeSim.Ses.Retries
import UeSim.Ses.Accounting
import UeSim.Ses.Triggers
import UeSim.Ses.Advances
import UeSim.Ses.Progress
import UeSim.Ses.Closing
import UeSim.Ses.WriteTransfer
import UeSim.Ses.SendReception
import UeSim.Ses.SendRoundTrip
import UeSim.Ses.RetryCounting
import UeSim.Ses.RetryBudget
import UeSim.NetDevice.PendingResponses
import UeSim.NetDevice.Inbound
import UeSim.NetDevice.System
import UeSim.NetDevice.ResponseAccounting
import UeSim.NetDevice.MemoryAccess
import UeSim.NetDevice.ReadTransfer
import UeSim.NetDevice.ReadExchange
import UeSim.NetDevice.RefusedRequests
import UeSim.Sue.Frames
import UeSim.Sue.CbfcManager
import UeSim.Sue.CreditMessages
import UeSim.Sue.CreditHop
import UeSim.Sue.Network
import UeSim.Sue.CreditLedger
import UeSim.Sue.Lossless
import UeSim.Sue.SueQueueManager
import UeSim.Sue.VcReservations
import UeSim.Sue.LlrManager
import UeSim.Sue.LlrDuplex
import UeSim.Sue.LlrWindow
import UeSim.Sue.LlrChannels
import UeSim.Sue.LlrBuffer
import UeSim.Sue.LlrLink
import UeSim.Sue.SueSwitch
import UeSim.Sue.ProcessingQueue
import UeSim.Sue.Transmitter
import UeSim.Sue.VcRotation
import UeSim.Sue.LlrRecovery
import UeSim.Sue.SueHeader
import UeSim.Sue.SueClient
import UeSim.Sue.UniformGenerator
import UeSim.Sue.FlowGenerator
import UeSim.Sue.LoadBalancer
import UeSim.Sue.Distribution
import UeSim.Sue.BackPressure
import UeSim.Sue.FlowPacing
import UeSim.Sue.SendScheduler
import UeSim.Sue.PackingLoop
import UeSim.Sue.SendLogging
import UeSim.Sue.SentOnce
import UeSim.Sue.PackingPlan
import UeSim.Sue.PackingProgress
import UeSim.Sue.FrameBytes
import UeSim.Sue.FrameSources
import UeSim.Sue.SourceRewriting
import UeSim.Sue.LlrReplies
import UeSim.Network.SoftUeChannel
import UeSim.Network.ChannelSystem
import UeSim.Network.ChannelConservation
import UeSim.Network.FlowOrder
import UeSim.Simulator.Scheduler
import UeSim.Simulator.CalendarScheduler
import UeSim.Simulator.CalendarOrder
import UeSim.Simulator.CalendarSearch
import UeSim.Simulator.CalendarQueue
import UeSim.Simulator.HeapScheduler
import UeSim.Simulator.DefaultSimulatorImpl
import UeSim.Simulator.EventOrder
