import Mathlib.Tactic.Common

/-!
# Messages of the event stream

The protocol buffers `netplayServiceProto` and `timings` are defined in a
submodule.  Each message is modelled by the fields that the client reads or
writes: integer fields are `Int`, a repeated field is a list, and a message
field that is only asked for its presence is a `Bool`.  Enums are open on the
wire, so a `Port` may carry any number; `PortEnum` names the six values the
client knows.
-/

namespace Netplay
namespace Client

/-- The numeric value of a `Port`. -/
abbrev Port := Int

/-- The named values of the `Port` enum: distinct and non-negative, in some
numbering the client never looks at. -/
structure PortEnum where
  unknown : Port
  portAny : Port
  port1 : Port
  port2 : Port
  port3 : Port
  port4 : Port
  distinct : [unknown, portAny, port1, port2, port3, port4].Nodup
  nonneg : ∀ port ∈ [unknown, portAny, port1, port2, port3, port4], 0 ≤ port

/-- Button data of one port and frame. -/
structure KeyStatePB where
  consoleId : Int := 0
  frameNumber : Int := 0
  port : Port := 0
  rightDPad : Bool := false
  leftDPad : Bool := false
  downDPad : Bool := false
  upDPad : Bool := false
  startButton : Bool := false
  zTrigger : Bool := false
  bButton : Bool := false
  aButton : Bool := false
  rightCButton : Bool := false
  leftCButton : Bool := false
  downCButton : Bool := false
  upCButton : Bool := false
  leftTrigger : Bool := false
  rightTrigger : Bool := false
  reserved1 : Bool := false
  reserved2 : Bool := false
  xAxis : Int := 0
  yAxis : Int := 0
deriving DecidableEq

structure ClientReadyPB where
  consoleId : Int
  clientId : Int
deriving DecidableEq

/-- `StartGamePB::ConnectedPortPB`. -/
structure ConnectedPortPB where
  port : Port
  delayFrames : Int
deriving DecidableEq

structure StartGamePB where
  consoleId : Int
  connectedPorts : List ConnectedPortPB
deriving DecidableEq

structure OutgoingEventPB where
  clientReady : Option ClientReadyPB := none
  keyPress : List KeyStatePB := []
deriving DecidableEq

structure IncomingEventPB where
  hasStopConsole : Bool := false
  startGame : Option StartGamePB := none
  hasInvalidData : Bool := false
  keyPress : List KeyStatePB := []
deriving DecidableEq

/-- The kinds of `TimingsPB` events; the time stamps they carry are left out. -/
inductive TimingEvent
  | plugControllerRequest
  | plugControllerResponse
  | clientReadySyncWriteStart
  | clientReadySyncWriteFinish
  | startGameEventReadStart
  | startGameEventReadFinish
  | keyStateSyncWriteStart
  | keyStateSyncWriteFinish
  | remoteKeyStateRequested
  | keyStateReadStart
  | keyStateReadFinish
  | remoteKeyStateReturned
deriving DecidableEq

/-- `ButtonCoderInterface`: buttons to and from a `KeyStatePB`.  Both directions
may fail.  Encoding is handed a message whose console, frame and port are
already set. -/
structure ButtonCoder (ButtonsType : Type*) where
  encodeButtons : ButtonsType → KeyStatePB → Option KeyStatePB
  decodeButtons : KeyStatePB → Option ButtonsType

namespace ButtonCoder

variable {ButtonsType : Type*}

/-- Encoding writes the buttons and leaves the fields alone that say whose
buttons they are. -/
def KeepsHeader (coder : ButtonCoder ButtonsType) : Prop :=
  ∀ {buttons key key'}, coder.encodeButtons buttons key = some key' →
    key'.consoleId = key.consoleId ∧ key'.frameNumber = key.frameNumber ∧ key'.port = key.port

/-- Decoding gives back what was encoded. -/
def Lossless (coder : ButtonCoder ButtonsType) : Prop :=
  ∀ {buttons key key'}, coder.encodeButtons buttons key = some key' →
    coder.decodeButtons key' = some buttons

/-- What the buttons of one client may be at another: themselves, or whatever
encoding and decoding makes of them. -/
def Arrives (coder : ButtonCoder ButtonsType) (sent arrived : ButtonsType) : Prop :=
  arrived = sent ∨ ∃ key key', coder.encodeButtons sent key = some key' ∧
    coder.decodeButtons key' = some arrived

theorem Lossless.eq_of_arrives {coder : ButtonCoder ButtonsType} (h : coder.Lossless)
    {sent arrived : ButtonsType} (harrives : coder.Arrives sent arrived) : arrived = sent := by
  rcases harrives with rfl | ⟨key, key', hencode, hdecode⟩
  · rfl
  · rw [h hencode] at hdecode
    exact (Option.some.inj hdecode).symm

/-- Encoding never fails. -/
def Total (coder : ButtonCoder ButtonsType) : Prop :=
  ∀ buttons key, (coder.encodeButtons buttons key).isSome

end ButtonCoder

/-- The coder of the integration tests: one number, carried in `x_axis`. -/
def integerCoder : ButtonCoder Int where
  encodeButtons := fun buttons key => some { key with xAxis := buttons }
  decodeButtons := fun key => some key.xAxis

theorem integerCoder_keepsHeader : integerCoder.KeepsHeader := by
  intro buttons key key' h
  cases h
  exact ⟨rfl, rfl, rfl⟩

theorem integerCoder_lossless : integerCoder.Lossless := by
  intro buttons key key' h
  cases h
  rfl

theorem integerCoder_total : integerCoder.Total := fun _ _ => rfl

end Client
end Netplay
