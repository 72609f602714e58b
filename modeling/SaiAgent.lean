import SaiAgent.Model.Event
import SaiAgent.Model.Loop
import SaiAgent.Properties.AgentWire
import SaiAgent.Properties.ByteQueue
import SaiAgent.Properties.CommandLine
import SaiAgent.Properties.Confinement
import SaiAgent.Properties.Delivery
import SaiAgent.Properties.Dispatch
import SaiAgent.Properties.Execution
import SaiAgent.Properties.FailStop
import SaiAgent.Properties.Frames
import SaiAgent.Properties.Inert
import SaiAgent.Properties.InitRequest
import SaiAgent.Properties.Keepalive
import SaiAgent.Properties.ListRoom
import SaiAgent.Properties.LoopRefinement
import SaiAgent.Properties.MessageLimits
import SaiAgent.Properties.ObjectIds
import SaiAgent.Properties.OneReply
import SaiAgent.Properties.OneSwitch
import SaiAgent.Properties.PortEvents
import SaiAgent.Properties.PortOrder
import SaiAgent.Properties.ProfileErrors
import SaiAgent.Properties.ProgramHandles
import SaiAgent.Properties.ProgramRuns
import SaiAgent.Properties.Registration
import SaiAgent.Properties.Removal
import SaiAgent.Properties.ReplyLayout
import SaiAgent.Properties.Residue
import SaiAgent.Properties.RoundTrip
import SaiAgent.Properties.Senders
import SaiAgent.Properties.Service
import SaiAgent.Properties.SwitchInit
import SaiAgent.Properties.ThreadLiveness
import SaiAgent.Properties.ThreadLoop
import SaiAgent.Properties.Unusable
import SaiAgent.Properties.VlanCache
import SaiAgent.Properties.VlanMembers
import SaiAgent.Properties.VlanRetry
