import Netplay.Foundations.TransitionSystem
import Netplay.Foundations.WriteOnceLog
import Netplay.Client.EventStreamHandler
import Netplay.Client.InputQueueLog
import Netplay.Client.StrandedWaiters
import Netplay.Client.QueueMap
import Netplay.Client.ConsoleStart
import Netplay.Client.PutButtons
import Netplay.Client.GetButtons
import Netplay.Client.CallRun
import Netplay.Client.Transmission
import Netplay.Client.LocalPorts
import Netplay.Client.ArrivalOrder
import Netplay.Session.Progress
import Netplay.Foundations.ReplicatedMachine
import Netplay.Session.Delivery
import Netplay.Session.SharedConsole
import Netplay.Session.Completion
import Netplay.Session.Conservation
import Netplay.Client.QueueShift
import Netplay.Client.StartMessage
import Netplay.Client.LifeCycle
import Netplay.Client.FaultyEvent
import Netplay.Client.NetplayClient
import Netplay.Foundations.MachineInt
import Netplay.Client.RemoteReads
import Netplay.Client.FrameArithmetic
import Netplay.Client.InternalError
import Netplay.Client.ReadFrame
import Netplay.Client.Timings
import Netplay.Foundations.InputStream
import Netplay.Foundations.SortedPairing
import Netplay.Plugin.NetplayInfo
import Netplay.Plugin.PluginImpl
import Netplay.Plugin.Dialogue
import Netplay.Plugin.ControllerTable
import Netplay.Plugin.Launch
import Netplay.Plugin.SessionTable
import Netplay.Plugin.PortRequests
import Netplay.Plugin.RequestedChannels
import Netplay.Plugin.ConsoleId
import Netplay.Plugin.Mupen64
import Netplay.Plugin.Coder
import Netplay.Plugin.Ids
import Netplay.Session.Emulators
import Netplay.Client.Linearization
import Netplay.Plugin.Library
import Netplay.Plugin.Joining
import Netplay.Session.IdealGame
