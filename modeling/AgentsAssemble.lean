import AgentsAssemble.Foundation.Tx
import AgentsAssemble.Foundation.Transition
import AgentsAssemble.Foundation.Table
import AgentsAssemble.Domain.Vote
import AgentsAssemble.Persistence.Members
import AgentsAssemble.Persistence.Messages
import AgentsAssemble.Protocol.Core
import AgentsAssemble.Protocol.Moves
import AgentsAssemble.Protocol.Log
import AgentsAssemble.Protocol.Queues
import AgentsAssemble.Protocol.Turns
import AgentsAssemble.Protocol.History
import AgentsAssemble.Protocol.Authority
import AgentsAssemble.Protocol.Envelopes
import AgentsAssemble.Protocol.Interrupts
import AgentsAssemble.Protocol.Ballots
import AgentsAssemble.System.Operations
import AgentsAssemble.System.Paths
import AgentsAssemble.Foundation.Result
import AgentsAssemble.Persistence.Prepared
import AgentsAssemble.Persistence.Survey
import AgentsAssemble.System.Scheduling
import AgentsAssemble.System.Routes
import AgentsAssemble.System.Endings
import AgentsAssemble.System.Shifts
import AgentsAssemble.System.Polls
import AgentsAssemble.System.Completions
import AgentsAssemble.System.Lifecycles
import AgentsAssemble.System.Residents
import AgentsAssemble.System.Posts
import AgentsAssemble.System.Recoveries
import AgentsAssemble.System.Simulation
import AgentsAssemble.Foundation.Errors
import AgentsAssemble.System.Inputs
import AgentsAssemble.System.Batches
import AgentsAssemble.System.Custody
import AgentsAssemble.System.Leases
import AgentsAssemble.System.Outcomes
import AgentsAssemble.System.Tallies
import AgentsAssemble.System.Replays
import AgentsAssemble.System.Restarts
import AgentsAssemble.System.Floor
import AgentsAssemble.Foundation.Json
import AgentsAssemble.Domain.Cleaning
import AgentsAssemble.Wire.VotePayloads
import AgentsAssemble.Directory.Creation
import AgentsAssemble.Provider.ExactRuns
import AgentsAssemble.Foundation.Triples
import AgentsAssemble.Admission.Runs
import AgentsAssemble.Browser.Outcomes
import AgentsAssemble.Wire.PublicValues
import AgentsAssemble.Domain.CanonicalJson
import AgentsAssemble.Domain.Folding
import AgentsAssemble.Domain.ProviderRequest
import AgentsAssemble.Domain.RoomRandom
import AgentsAssemble.Foundation.Agreement
import AgentsAssemble.Foundation.Merging
import AgentsAssemble.Persistence.Observations
import AgentsAssemble.Persistence.ProviderResolution
import AgentsAssemble.System.Choices
import AgentsAssemble.Provider.Reassembly
import AgentsAssemble.Provider.WorkspaceWalks
import AgentsAssemble.Domain.Lore
import AgentsAssemble.Server.Connections
import AgentsAssemble.Foundation.Totals
import AgentsAssemble.Server.MutationBudget
import AgentsAssemble.Server.SocketReference
import AgentsAssemble.Server.SocketWindows
import AgentsAssemble.Foundation.Framing
import AgentsAssemble.Provider.OpenCodeEvents
import AgentsAssemble.Provider.OpenCodeRuns
import AgentsAssemble.Foundation.Bytes
import AgentsAssemble.Persistence.PersonaRisu
import AgentsAssemble.Persistence.RisuFormat
import AgentsAssemble.Domain.SideChat
import AgentsAssemble.Foundation.Retention
import AgentsAssemble.Pairing.Managers
import AgentsAssemble.Persistence.SideChat
import AgentsAssemble.Persistence.SideChatAccount
import AgentsAssemble.Pairing.OneUse
import AgentsAssemble.Appearance.AppearanceRuns
import AgentsAssemble.Foundation.Rounds
import AgentsAssemble.Portal.Observation
import AgentsAssemble.Portal.OneOutcome
import AgentsAssemble.Paging.Complete
import AgentsAssemble.Foundation.Texts
import AgentsAssemble.Persistence.Delivery
import AgentsAssemble.System.Deliveries
import AgentsAssemble.Foundation.Cursors
import AgentsAssemble.Streaming.Agreement
import AgentsAssemble.Streaming.Histories
import AgentsAssemble.Recovery.GuestRecovery
import AgentsAssemble.Recovery.Outcomes
import AgentsAssemble.Recovery.RecoveryReceipts
import AgentsAssemble.Recovery.RecoverySeats
