import CraneSps.Election.Transition
import CraneSps.Election.Agreement
import CraneSps.Foundation.ListUpdate
import CraneSps.Election.Claim
import CraneSps.Election.Completion
import CraneSps.Election.Confirmation
import CraneSps.Election.Quiescence
import CraneSps.FileTransfer.FileHelper
import CraneSps.FileTransfer.DFile
import CraneSps.FileTransfer.FetchServer
import CraneSps.FileTransfer.Fetch
import CraneSps.FileTransfer.ReplicaChain
import CraneSps.FileTransfer.PutReplication
import CraneSps.Master.FileMap
import CraneSps.Master.Replication
import CraneSps.Master.Operations
import CraneSps.FileTransfer.LocalStore
import CraneSps.Master.Group
import CraneSps.Master.Exclusivity
import CraneSps.Foundation.RunLength
import CraneSps.Crane.Nimbus
import CraneSps.Crane.Operations
import CraneSps.Crane.Instances
import CraneSps.Crane.Addresses
import CraneSps.Crane.SubmitRequest
import CraneSps.Foundation.RingGraph
import CraneSps.Membership.Connection
import CraneSps.Foundation.SortedMap
import CraneSps.Membership.Member
import CraneSps.Membership.DMember
import CraneSps.Membership.Gossip
import CraneSps.Membership.Counts
import CraneSps.Membership.Resurrection
import CraneSps.Membership.Departure
import CraneSps.Membership.Visibility
import CraneSps.Master.Views
import CraneSps.FileTransfer.ConcurrentFetch
import CraneSps.Master.Cluster
import CraneSps.Master.Overshoot
import CraneSps.Master.Deletion
import CraneSps.Crane.Isolation
import CraneSps.Crane.Recovery
import CraneSps.Crane.Tracked
import CraneSps.Crane.Assignment
import CraneSps.Crane.Orphans
import CraneSps.Crane.Grouping
import CraneSps.Crane.TopologyBuilder
import CraneSps.Foundation.BreadthFirst
import CraneSps.Crane.Compilation
import CraneSps.FileTransfer.ServiceSocket
import CraneSps.Foundation.WaitGraph
import CraneSps.Master.WaitCycles
import CraneSps.Foundation.WriteOnce
import CraneSps.Master.FileService
import CraneSps.Crane.Libraries
import CraneSps.Crane.Wiring
import CraneSps.FileTransfer.ServerThread
import CraneSps.FileTransfer.Retransmission
import CraneSps.Crane.Balance
import CraneSps.Master.GetRequest
import CraneSps.Master.Listing
import CraneSps.Crane.ExecutorCalls
import CraneSps.Crane.Stopping
import CraneSps.Crane.FieldGrouping
import CraneSps.Membership.OwnEntry
import CraneSps.Master.Duties
import CraneSps.Master.OnlyLeader
import CraneSps.Crane.Display
import CraneSps.Crane.Ports
import CraneSps.Membership.Merging
import CraneSps.Foundation.Pointers
import CraneSps.Messages.CraneMessageParser
import CraneSps.Messages.DFileMessageParser
import CraneSps.Messages.ElectionMessageParser
import CraneSps.Messages.MessageParser
import CraneSps.Messages.Dispatch
import CraneSps.Messages.Effects
import CraneSps.Foundation.Dataflow
import CraneSps.Foundation.Transducer
import CraneSps.Streaming.Network
import CraneSps.Streaming.History
import CraneSps.Streaming.Accounting
import CraneSps.Streaming.Delivery
import CraneSps.Streaming.UserCode
import CraneSps.Streaming.Pipeline
import CraneSps.Streaming.WordCount
import CraneSps.Foundation.Levels
import CraneSps.Streaming.Progress
import CraneSps.Streaming.Termination
import CraneSps.Streaming.Completion
import CraneSps.Streaming.Stateless
import CraneSps.Crane.Running
import CraneSps.Streaming.Deployed
import CraneSps.Streaming.ClientTopology
import CraneSps.Master.Durability
import CraneSps.Membership.Punctual
import CraneSps.Membership.Rounds
import CraneSps.Membership.Detection
import CraneSps.Membership.RingGroup
import CraneSps.Foundation.Operators
import CraneSps.Streaming.Graph
import CraneSps.Foundation.Copies
import CraneSps.Streaming.Computation
import CraneSps.Streaming.Meaning
import CraneSps.Streaming.GraphTopology
import CraneSps.Election.Counters
import CraneSps.Crane.Processes
import CraneSps.Crane.OwnProcesses
import CraneSps.Membership.Overflow
import CraneSps.Master.Sequential
import CraneSps.Master.Simulation
import CraneSps.Master.Uninterrupted
import CraneSps.Messages.MasterEffects
