import Netplay.Client.NetplayClient

/-!
# What the plugin shares with the emulator

`NETPLAY_INFO` of the emulator core, the configuration that the plugin reads from
it, and the two numberings of ports in `util.cc`: the one of the configuration,
where 0 asks for any port, and the one of the controller table, where the four
ports are 0 to 3.

Writing to a table entry that does not exist is undefined behaviour in the source
and `none` here.
-/

namespace Netplay
namespace Plugin

open Client

/-! ### `NETPLAY_INFO` -/

/-- `CONTROL`, of which the plugin reads these fields. -/
structure Control where
  present : Int := 0
  rawData : Int := 0
deriving DecidableEq

/-- `NETPLAY_CONTROLLER`. -/
structure NetplayController where
  present : Int
  remote : Int
  delay : Int
  channel : Int
deriving DecidableEq

/-- A controller that takes no part in the session. -/
def NetplayController.absent : NetplayController where
  present := 0
  remote := 0
  delay := -1
  channel := -1

structure NetplayInfo where
  enabled : Int
  controls : Vector Control 4
  netplayControls : Vector NetplayController 4
deriving DecidableEq

namespace NetplayInfo

/-- The initialization of the netplay structs to default values. -/
def clear (info : NetplayInfo) : NetplayInfo :=
  { info with netplayControls := Vector.replicate 4 NetplayController.absent }

/-- `*netplay_info->Enabled = enabled`. -/
def setEnabled (info : NetplayInfo) (enabled : Bool) : NetplayInfo :=
  { info with enabled := if enabled then 1 else 0 }

/-- Some input controller is in `RawData` mode. -/
def hasRawData (info : NetplayInfo) : Bool :=
  info.controls.toList.any fun control => control.rawData != 0

/-- The available input plugin channels. -/
def availableChannels (info : NetplayInfo) : List Int :=
  (List.finRange 4).filterMap fun i =>
    if info.controls[i].present ≠ 0 then some (i.val : Int) else none

/-- `NetplayControls[index] = controller`. -/
def setController (info : NetplayInfo) (index : Int) (controller : NetplayController) :
    Option NetplayInfo :=
  if 0 ≤ index ∧ index < 4 then
    some { info with
      netplayControls := info.netplayControls.setIfInBounds index.toNat controller }
  else none

end NetplayInfo

/-! ### `util` -/

/-- `Port_IsValid`. -/
def portIsValid (ports : PortEnum) (value : Int) : Bool :=
  decide (value ∈ [ports.unknown, ports.portAny, ports.port1, ports.port2, ports.port3,
    ports.port4])

/-- `M64RequestedIntToPort`. -/
def m64RequestedIntToPort (ports : PortEnum) (m64RequestedPort : Int) : Port :=
  if m64RequestedPort = 0 then ports.portAny
  else if m64RequestedPort = 1 then ports.port1
  else if m64RequestedPort = 2 then ports.port2
  else if m64RequestedPort = 3 then ports.port3
  else if m64RequestedPort = 4 then ports.port4
  else ports.unknown

/-- `PortToM64Port`. -/
def portToM64Port (ports : PortEnum) (port : Port) : Int :=
  if port = ports.port1 then 0
  else if port = ports.port2 then 1
  else if port = ports.port3 then 2
  else if port = ports.port4 then 3
  else -1

/-- `M64PortToPort`. -/
def m64PortToPort (ports : PortEnum) (port : Int) : Port :=
  if port = 0 then ports.port1
  else if port = 1 then ports.port2
  else if port = 2 then ports.port3
  else if port = 3 then ports.port4
  else ports.unknown

/-- The port has an entry in the controller table. -/
def InTable (ports : PortEnum) (port : Port) : Prop :=
  port ∈ [ports.port1, ports.port2, ports.port3, ports.port4]

instance (ports : PortEnum) (port : Port) : Decidable (InTable ports port) :=
  inferInstanceAs (Decidable (_ ∈ _))

/-- The index is inside the table for the four ports only. -/
theorem portToM64Port_mem_iff (ports : PortEnum) (port : Port) :
    0 ≤ portToM64Port ports port ∧ portToM64Port ports port < 4 ↔ InTable ports port := by
  simp only [InTable, portToM64Port, List.mem_cons, List.not_mem_nil, or_false]
  split_ifs <;> simp_all

/-! ### The configuration -/

/-- `ConfigHandlerInterface`: the core's parameters of the section.  `GetString`
may fail. -/
structure ConfigHandler where
  getString : String → Option String
  getInt : String → Int
  getBool : String → Bool

structure M64Config where
  enabled : Bool := false
  serverHostname : String := ""
  serverPort : Int := 9889
  consoleId : Int := -1
  delayFrames : Int := 0
  port1Request : Int := -1
  port2Request : Int := -1
  port3Request : Int := -1
  port4Request : Int := -1
deriving DecidableEq

namespace M64Config

/-- `FromConfigHandler`. -/
def fromConfigHandler (configHandler : ConfigHandler) : M64Config :=
  match configHandler.getString "ServerHostname" with
  | none => {}
  | some serverHostname =>
      { enabled := configHandler.getBool "Enabled"
        serverHostname := serverHostname
        serverPort := configHandler.getInt "ServerPort"
        consoleId := configHandler.getInt "ConsoleId"
        delayFrames := configHandler.getInt "DelayFrames"
        port1Request := configHandler.getInt "Port1Request"
        port2Request := configHandler.getInt "Port2Request"
        port3Request := configHandler.getInt "Port3Request"
        port4Request := configHandler.getInt "Port4Request" }

/-- The four requests, in order. -/
def portRequests (config : M64Config) : List Int :=
  [config.port1Request, config.port2Request, config.port3Request, config.port4Request]

/-- The loop that fills the requested ports; `none` is an invalid request. -/
def requestPorts (ports : PortEnum) : List Int → Option (List Port)
  | [] => some []
  | encodedPort :: rest =>
      if encodedPort = -1 then
        requestPorts ports rest
      else if portIsValid ports encodedPort = false then
        none
      else
        (requestPorts ports rest).map (m64RequestedIntToPort ports encodedPort :: ·)

end M64Config

end Plugin
end Netplay
