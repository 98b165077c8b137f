import Netplay.Client.Messages

/-!
# `Mupen64ButtonCoder`

The coder of `coder.cc`, from the bit fields of `BUTTONS` to the fields of a
`KeyStatePB` and back.  `BUTTONS` is defined in the emulator core: sixteen flags of one
bit and two signed axes of eight bits, 32 bits in all.  Decoding writes into a structure
that the caller leaves uninitialised, so it is a function of the prior contents too.
-/

namespace Netplay
namespace Plugin

open Client

/-- `BUTTONS`. -/
structure Buttons where
  rDpad : BitVec 1
  lDpad : BitVec 1
  dDpad : BitVec 1
  uDpad : BitVec 1
  startButton : BitVec 1
  zTrig : BitVec 1
  bButton : BitVec 1
  aButton : BitVec 1
  rCbutton : BitVec 1
  lCbutton : BitVec 1
  dCbutton : BitVec 1
  uCbutton : BitVec 1
  rTrig : BitVec 1
  lTrig : BitVec 1
  reserved1 : BitVec 1
  reserved2 : BitVec 1
  xAxis : BitVec 8
  yAxis : BitVec 8
deriving DecidableEq, Inhabited

namespace Mupen64ButtonCoder

/-- `EncodeButtons`: its result, and `*out`. -/
def encodeButtons (buttons : Buttons) (out : KeyStatePB) : Bool × KeyStatePB :=
  let out := { out with
    rightDPad := buttons.rDpad == 1
    leftDPad := buttons.lDpad == 1
    downDPad := buttons.dDpad == 1
    upDPad := buttons.uDpad == 1
    startButton := buttons.startButton == 1
    zTrigger := buttons.zTrig == 1
    bButton := buttons.bButton == 1
    aButton := buttons.aButton == 1 }
  -- the source sets the first flag a second time
  let out := { out with
    rightDPad := buttons.rDpad == 1
    rightCButton := buttons.rCbutton == 1
    leftCButton := buttons.lCbutton == 1
    downCButton := buttons.dCbutton == 1
    upCButton := buttons.uCbutton == 1
    leftTrigger := buttons.lTrig == 1
    rightTrigger := buttons.rTrig == 1
    reserved1 := buttons.reserved1 == 1
    reserved2 := buttons.reserved2 == 1 }
  let out := { out with
    xAxis := buttons.xAxis.toInt
    yAxis := buttons.yAxis.toInt }
  (true, out)

/-- `DecodeButtons`: its result, and `*out`.  An axis is cut to its eight bits. -/
def decodeButtons (keys : KeyStatePB) (out : Buttons) : Bool × Buttons :=
  let out := { out with
    rDpad := .ofBool keys.rightDPad
    lDpad := .ofBool keys.leftDPad
    dDpad := .ofBool keys.downDPad
    uDpad := .ofBool keys.upDPad
    startButton := .ofBool keys.startButton
    zTrig := .ofBool keys.zTrigger
    bButton := .ofBool keys.bButton
    aButton := .ofBool keys.aButton }
  let out := { out with
    rCbutton := .ofBool keys.rightCButton
    lCbutton := .ofBool keys.leftCButton
    dCbutton := .ofBool keys.downCButton
    uCbutton := .ofBool keys.upCButton
    rTrig := .ofBool keys.rightTrigger
    lTrig := .ofBool keys.leftTrigger
    reserved1 := .ofBool keys.reserved1
    reserved2 := .ofBool keys.reserved2 }
  let out := { out with
    xAxis := .ofInt 8 keys.xAxis
    yAxis := .ofInt 8 keys.yAxis }
  (true, out)

end Mupen64ButtonCoder

/-- The coder as the event stream handler uses it.  What the decoder is handed makes no
difference (`decodeButtons_prior`). -/
def mupen64ButtonCoder : ButtonCoder Buttons where
  encodeButtons := fun buttons out =>
    match Mupen64ButtonCoder.encodeButtons buttons out with
    | (true, out) => some out
    | (false, _) => none
  decodeButtons := fun keys =>
    match Mupen64ButtonCoder.decodeButtons keys default with
    | (true, out) => some out
    | (false, _) => none

namespace Mupen64ButtonCoder

/-- A one-bit flag survives the test for 1. -/
theorem ofBool_beq_one (bit : BitVec 1) : BitVec.ofBool (bit == 1) = bit := by
  revert bit
  decide

/-- Nothing of what was there before is left after decoding. -/
theorem decodeButtons_prior (keys : KeyStatePB) (out out' : Buttons) :
    decodeButtons keys out = decodeButtons keys out' := rfl

/-- Decoding gives back all fields. -/
theorem decodeButtons_encodeButtons (buttons out : Buttons) (keys : KeyStatePB) :
    decodeButtons (encodeButtons buttons keys).2 out = (true, buttons) := by
  simp only [decodeButtons, encodeButtons, ofBool_beq_one, BitVec.ofInt_toInt]

/-- Encoding what an encoded message decodes to writes the same fields. -/
theorem encodeButtons_decodeButtons (buttons out : Buttons) (keys prior : KeyStatePB) :
    encodeButtons (decodeButtons (encodeButtons buttons keys).2 out).2 prior =
      (true, { (encodeButtons buttons keys).2 with
        consoleId := prior.consoleId
        frameNumber := prior.frameNumber
        port := prior.port }) := by
  rw [decodeButtons_encodeButtons]
  rfl

/-- Encoding leaves alone whose buttons they are. -/
theorem keepsHeader : mupen64ButtonCoder.KeepsHeader := by
  intro buttons key key' h
  cases h
  exact ⟨rfl, rfl, rfl⟩

theorem total : mupen64ButtonCoder.Total := fun _ _ => rfl

/-- **The coder is lossless.**  Whatever the message and the structure held before, both
functions succeed, decoding gives back every bit, the console, frame and port of the
message are kept, and a message of the encoder is encoded again to the same fields. -/
theorem coder_lossless (buttons out : Buttons) (keys : KeyStatePB) :
    (encodeButtons buttons keys).1 = true ∧
      decodeButtons (encodeButtons buttons keys).2 out = (true, buttons) ∧
      ((encodeButtons buttons keys).2.consoleId = keys.consoleId ∧
        (encodeButtons buttons keys).2.frameNumber = keys.frameNumber ∧
        (encodeButtons buttons keys).2.port = keys.port) ∧
      ∀ prior, encodeButtons (decodeButtons (encodeButtons buttons keys).2 out).2 prior =
        (true, { (encodeButtons buttons keys).2 with
          consoleId := prior.consoleId
          frameNumber := prior.frameNumber
          port := prior.port }) :=
  ⟨rfl, decodeButtons_encodeButtons buttons out keys, ⟨rfl, rfl, rfl⟩,
    encodeButtons_decodeButtons buttons out keys⟩

end Mupen64ButtonCoder

end Plugin
end Netplay
