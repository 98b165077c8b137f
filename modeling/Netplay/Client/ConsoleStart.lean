import Netplay.Client.QueueMap
import Netplay.Foundations.OrderedSet

/-!
# Starting a handler

A handler is constructed, may signal any number of times that it is ready, and
is started by the first `WaitForConsoleStart` that returns true.  `Started`
collects what the handler then knows: one fresh queue for each port of the
`StartGame` message, local or remote as the handler was constructed, and no
other queue.
-/

namespace Netplay
namespace Client
namespace EventStreamHandler

variable {ButtonsType : Type*}

/-- The handlers whose console has not started. -/
inductive Unstarted (ports : PortEnum) : EventStreamHandler ButtonsType → Prop
  | construct {consoleId clientId : Int} {localPorts : List Port} {timings : List TimingEvent}
      {handler : EventStreamHandler ButtonsType}
      (h : construct ports consoleId clientId localPorts timings = some handler) :
      Unstarted ports handler
  | clientReady {handler : EventStreamHandler ButtonsType} (h : Unstarted ports handler)
      (writeOk : Bool) : Unstarted ports (handler.clientReady writeOk).2.2
  | notStarted {handler handler' : EventStreamHandler ButtonsType} (h : Unstarted ports handler)
      {read : Option IncomingEventPB}
      (hwait : handler.waitForConsoleStart ports read = (false, handler')) :
      Unstarted ports handler'

/-- The handler was started by a `StartGame` message with these ports. -/
def StartedBy (ports : PortEnum) (connectedPorts : List ConnectedPortPB)
    (handler : EventStreamHandler ButtonsType) : Prop :=
  ∃ (unstarted : EventStreamHandler ButtonsType) (event : IncomingEventPB)
    (startGame : StartGamePB), Unstarted ports unstarted ∧ event.startGame = some startGame ∧
      startGame.connectedPorts = connectedPorts ∧
      unstarted.waitForConsoleStart ports (some event) = (true, handler)

/-- The queue a connected port starts with. -/
def freshQueue (handler : EventStreamHandler ButtonsType) (connectedPort : ConnectedPortPB) :
    InputQueue ButtonsType :=
  if connectedPort.port ∈ handler.localPorts then
    InputQueue.makeLocalQueue connectedPort.delayFrames
  else InputQueue.makeRemoteQueue connectedPort.delayFrames

/-- What a started handler knows about its ports. -/
structure Started (ports : PortEnum) (connectedPorts : List ConnectedPortPB)
    (handler : EventStreamHandler ButtonsType) : Prop where
  consoleId_pos : 0 < handler.consoleId
  portAny_not_mem : ports.portAny ∉ connectedPorts.map ConnectedPortPB.port
  nodup : (connectedPorts.map ConnectedPortPB.port).Nodup
  length_le : connectedPorts.length ≤ 4
  queue_of_mem : ∀ connectedPort ∈ connectedPorts,
    handler.inputQueues[connectedPort.port]? = some (handler.freshQueue connectedPort)
  queue_of_not_mem : ∀ port ∉ connectedPorts.map ConnectedPortPB.port,
    handler.inputQueues[port]? = none
  local_connected : ∀ port ∈ handler.localPorts,
    port ∈ connectedPorts.map ConnectedPortPB.port

/-! ### The loop of `InitializeQueues` -/

/-- What a complete run of the loop has done: each listed port has its fresh
queue, all other ports are as before, and `connected` counts the local ports. -/
structure PortsConnected (ports : PortEnum) (connectedPorts : List ConnectedPortPB)
    (handledPorts : Std.ExtTreeSet Port) (count connected : Nat)
    (handler handler' : EventStreamHandler ButtonsType) : Prop where
  frame : handler' = { handler with inputQueues := handler'.inputQueues }
  ne_portAny : ∀ connectedPort ∈ connectedPorts, connectedPort.port ≠ ports.portAny
  not_handled : ∀ connectedPort ∈ connectedPorts, connectedPort.port ∉ handledPorts
  nodup : (connectedPorts.map ConnectedPortPB.port).Nodup
  queue_of_mem : ∀ connectedPort ∈ connectedPorts,
    handler'.inputQueues[connectedPort.port]? = some (handler.freshQueue connectedPort)
  queue_of_not_mem : ∀ port ∉ connectedPorts.map ConnectedPortPB.port,
    handler'.inputQueues[port]? = handler.inputQueues[port]?
  count_eq : connected = count +
    (connectedPorts.filter fun connectedPort => connectedPort.port ∈ handler.localPorts).length

/-- One round: a forbidden port ends the loop, any other gets its fresh queue
unless it has one. -/
theorem connectPorts_cons_eq (ports : PortEnum) (connectedPort : ConnectedPortPB)
    (rest : List ConnectedPortPB) (handledPorts : Std.ExtTreeSet Port) (count : Nat)
    (handler : EventStreamHandler ButtonsType) :
    connectPorts ports (connectedPort :: rest) handledPorts count handler =
      if connectedPort.port = ports.portAny ∨ connectedPort.port ∈ handledPorts then
        (none, handler)
      else
        connectPorts ports rest (handledPorts.insert connectedPort.port)
          (if connectedPort.port ∈ handler.localPorts then count + 1 else count)
          { handler with
            inputQueues := handler.inputQueues.insertIfNew connectedPort.port
              (handler.freshQueue connectedPort) } := by
  rw [connectPorts]
  by_cases hany : connectedPort.port = ports.portAny
  · simp [hany]
  by_cases hhandled : connectedPort.port ∈ handledPorts
  · simp [hhandled]
  by_cases hlocal : connectedPort.port ∈ handler.localPorts
  · simp [hany, hhandled, hlocal, freshQueue]
  · simp [hany, hhandled, hlocal, freshQueue]

/-- One accepted port: the loop goes on with the port handled, its fresh queue
added, and the counter raised when the port is local. -/
theorem connectPorts_cons {ports : PortEnum} {connectedPort : ConnectedPortPB}
    {rest : List ConnectedPortPB} {handledPorts : Std.ExtTreeSet Port} {count connected : Nat}
    {handler handler' : EventStreamHandler ButtonsType}
    (h : connectPorts ports (connectedPort :: rest) handledPorts count handler =
      (some connected, handler')) :
    connectedPort.port ≠ ports.portAny ∧ connectedPort.port ∉ handledPorts ∧
      connectPorts ports rest (handledPorts.insert connectedPort.port)
        (if connectedPort.port ∈ handler.localPorts then count + 1 else count)
        { handler with
          inputQueues := handler.inputQueues.insertIfNew connectedPort.port
            (handler.freshQueue connectedPort) } = (some connected, handler') := by
  rw [connectPorts_cons_eq] at h
  by_cases hstop : connectedPort.port = ports.portAny ∨ connectedPort.port ∈ handledPorts
  · rw [if_pos hstop] at h
    cases h
  · rw [if_neg hstop] at h
    obtain ⟨hany, hhandled⟩ := not_or.mp hstop
    exact ⟨hany, hhandled, h⟩

theorem connectPorts_success {ports : PortEnum} {connectedPorts : List ConnectedPortPB}
    {handledPorts : Std.ExtTreeSet Port} {count connected : Nat}
    {handler handler' : EventStreamHandler ButtonsType}
    (h : connectPorts ports connectedPorts handledPorts count handler = (some connected, handler'))
    (hfresh : ∀ port ∉ handledPorts, handler.inputQueues[port]? = none) :
    PortsConnected ports connectedPorts handledPorts count connected handler handler' := by
  induction connectedPorts generalizing handledPorts count handler with
  | nil =>
      cases h
      exact ⟨rfl, by simp, by simp, by simp, by simp, by simp, by simp⟩
  | cons connectedPort rest ih =>
      obtain ⟨hany, hhandled, hrest⟩ := connectPorts_cons h
      have hnew := hfresh _ hhandled
      have hget : ∀ k : Port, (handler.inputQueues.insertIfNew connectedPort.port
          (handler.freshQueue connectedPort))[k]? =
            if connectedPort.port = k then some (handler.freshQueue connectedPort)
            else handler.inputQueues[k]? := by
        intro k
        have habsent : connectedPort.port ∉ handler.inputQueues := by
          rw [Std.ExtTreeMap.mem_iff_isSome_getElem?, hnew]
          simp
        simp [Std.ExtTreeMap.getElem?_insertIfNew, habsent]
      obtain ⟨hframe, hanys, hhandleds, hnodup, hmem, hnotMem, hcount⟩ := ih hrest (by
        intro k hk
        simp only [Std.ExtTreeSet.mem_insert, Std.compare_eq_iff_eq, not_or] at hk
        rw [hget, if_neg hk.1]
        exact hfresh k hk.2)
      have hnotRest : connectedPort.port ∉ rest.map ConnectedPortPB.port := by
        intro hin
        obtain ⟨other, hother, hport⟩ := List.mem_map.mp hin
        apply hhandleds other hother
        rw [hport]
        simp
      refine ⟨hframe, ?_, ?_, ?_, ?_, ?_, ?_⟩
      · exact List.forall_mem_cons.mpr ⟨hany, hanys⟩
      · refine List.forall_mem_cons.mpr ⟨hhandled, fun other hother hin => ?_⟩
        exact hhandleds other hother (by simp [hin])
      · exact List.nodup_cons.mpr ⟨hnotRest, hnodup⟩
      · refine List.forall_mem_cons.mpr ⟨?_, hmem⟩
        rw [hnotMem _ hnotRest, hget, if_pos rfl]
      · intro k hk
        simp only [List.map_cons, List.mem_cons, not_or] at hk
        rw [hnotMem k hk.2, hget, if_neg (Ne.symm hk.1)]
      · rw [hcount, List.filter_cons]
        by_cases hlocal : connectedPort.port ∈ handler.localPorts
        · simp only [hlocal, if_true, decide_true, List.length_cons]
          omega
        · simp [hlocal]

/-! ### `WaitForConsoleStart` -/

/-- A call that returns false leaves the queues as they were or drops them all. -/
theorem waitForConsoleStart_false {ports : PortEnum} {read : Option IncomingEventPB}
    {handler handler' : EventStreamHandler ButtonsType}
    (h : handler.waitForConsoleStart ports read = (false, handler')) :
    handler'.inputQueues = handler.inputQueues ∨ handler'.inputQueues = ∅ := by
  unfold waitForConsoleStart at h
  cases read with
  | none =>
      cases h
      exact Or.inl rfl
  | some event =>
      simp only at h
      by_cases hstop : event.hasStopConsole
      · rw [if_pos hstop] at h
        cases h
        exact Or.inl rfl
      rw [if_neg hstop] at h
      cases hstart : event.startGame with
      | none =>
          rw [hstart] at h
          cases h
          exact Or.inl rfl
      | some startGame =>
          rw [hstart] at h
          simp only at h
          split_ifs at h
          · cases h
            exact Or.inl rfl
          · split at h
            · cases h
            · cases h
              exact Or.inr rfl

/-- A call that returns true ran through the whole loop of `InitializeQueues`. -/
theorem waitForConsoleStart_true {ports : PortEnum} {event : IncomingEventPB}
    {startGame : StartGamePB} {handler handler' : EventStreamHandler ButtonsType}
    (h : handler.waitForConsoleStart ports (some event) = (true, handler'))
    (hstart : event.startGame = some startGame) :
    0 < startGame.consoleId ∧ startGame.consoleId = handler.consoleId ∧
      startGame.connectedPorts.length ≤ 4 ∧
      connectPorts ports startGame.connectedPorts ∅ 0
        ((handler.addEvent .startGameEventReadStart).addEvent .startGameEventReadFinish) =
          (some handler'.localPorts.size, handler') := by
  unfold waitForConsoleStart at h
  simp only [hstart] at h
  split_ifs at h with hstop hid
  · cases h
  · cases h
  simp only [not_or, not_le, ne_eq, not_not] at hid
  refine ⟨hid.1, hid.2, ?_⟩
  unfold initializeQueues at h
  by_cases hlength : startGame.connectedPorts.length > 4
  · simp [hlength] at h
  rw [if_neg hlength] at h
  refine ⟨by omega, ?_⟩
  cases hloop : connectPorts ports startGame.connectedPorts ∅ 0
      ((handler.addEvent .startGameEventReadStart).addEvent .startGameEventReadFinish) with
  | mk outcome handler₁ =>
      rw [hloop] at h
      cases outcome with
      | none => simp at h
      | some connected =>
          by_cases hsize : handler₁.localPorts.size = connected
          · simp only [hsize, decide_true, Prod.mk.injEq, true_and] at h
            subst h
            rw [hsize]
          · simp [hsize] at h

theorem Unstarted.inputQueues_eq {ports : PortEnum} {handler : EventStreamHandler ButtonsType}
    (h : Unstarted ports handler) : handler.inputQueues = ∅ := by
  induction h with
  | construct h =>
      simp only [EventStreamHandler.construct, Option.ite_none_left_eq_some,
        Option.some.injEq] at h
      obtain ⟨-, -, -, -, -, rfl⟩ := h
      rfl
  | clientReady _ _ ih => exact ih
  | notStarted _ hwait ih =>
      rcases waitForConsoleStart_false hwait with h | h
      · rw [h, ih]
      · exact h

/-- Local ports that are all counted are all listed: the counter cannot reach the
number of local ports otherwise. -/
theorem mem_of_count {localPorts : Std.ExtTreeSet Port} {connectedPorts : List ConnectedPortPB}
    (hnodup : (connectedPorts.map ConnectedPortPB.port).Nodup)
    (hcount : localPorts.size =
      (connectedPorts.filter fun connectedPort => connectedPort.port ∈ localPorts).length)
    {port : Port} (hport : port ∈ localPorts) :
    port ∈ connectedPorts.map ConnectedPortPB.port := by
  refine (OrderedSet.length_filter_eq_size_iff hnodup).mp ?_ port hport
  rw [hcount, List.filter_map, List.length_map]
  rfl

theorem StartedBy.started {ports : PortEnum} {connectedPorts : List ConnectedPortPB}
    {handler : EventStreamHandler ButtonsType} (h : StartedBy ports connectedPorts handler) :
    Started ports connectedPorts handler := by
  obtain ⟨unstarted, event, startGame, hunstarted, hstart, rfl, hwait⟩ := h
  obtain ⟨hpos, hid, hlength, hloop⟩ := waitForConsoleStart_true hwait hstart
  obtain ⟨hframe, hany, -, hnodup, hmem, hnotMem, hcount⟩ := connectPorts_success hloop (by
    intro port _
    show unstarted.inputQueues[port]? = none
    rw [hunstarted.inputQueues_eq]
    simp)
  have hlocal : handler.localPorts = unstarted.localPorts := by
    rw [hframe]
    rfl
  have hfresh : ∀ connectedPort, handler.freshQueue connectedPort =
      unstarted.freshQueue connectedPort := by
    intro connectedPort
    simp only [freshQueue, hlocal]
  refine ⟨?_, ?_, hnodup, hlength, ?_, ?_, ?_⟩
  · rw [hframe]
    show 0 < unstarted.consoleId
    omega
  · intro hin
    obtain ⟨connectedPort, hconnected, hport⟩ := List.mem_map.mp hin
    exact hany connectedPort hconnected hport
  · intro connectedPort hconnected
    rw [hmem connectedPort hconnected, hfresh]
    rfl
  · intro port hport
    rw [hnotMem port hport]
    show unstarted.inputQueues[port]? = none
    rw [hunstarted.inputQueues_eq]
    simp
  · intro port hport
    apply mem_of_count hnodup _ hport
    rw [hcount, hlocal]
    simp [addEvent]

/-! ### A two-player game

The game that witnesses are run on: port 1 with a delay of one frame and port 2
with a delay of two, each local to one client. -/

/-- A numbering of the ports. -/
def portNumbers : PortEnum where
  unknown := 0
  portAny := 5
  port1 := 1
  port2 := 2
  port3 := 3
  port4 := 4
  distinct := by decide
  nonneg := by decide

def twoPorts : List ConnectedPortPB := [⟨portNumbers.port1, 1⟩, ⟨portNumbers.port2, 2⟩]

def twoPlayerGame : StartGamePB where
  consoleId := 1
  connectedPorts := twoPorts

/-- The client of one of the two players, before the start. -/
def waitingPlayer (port : Port) : EventStreamHandler Int where
  consoleId := 1
  clientId := port
  localPorts := Std.ExtTreeSet.ofList [port]
  timings := []
  inputQueues := ∅
  status := .notYetStarted

/-- The client of one of the two players, once the game has started. -/
def player (port : Port) : EventStreamHandler Int :=
  ((waitingPlayer port).waitForConsoleStart portNumbers
    (some { startGame := some twoPlayerGame })).2

theorem player_startedBy {port : Port} (h : port = 1 ∨ port = 2) :
    StartedBy portNumbers twoPorts (player port) := by
  refine ⟨waitingPlayer port, { startGame := some twoPlayerGame }, twoPlayerGame,
    ?_, rfl, rfl, ?_⟩
  · have hconstruct : construct portNumbers 1 port [port] [] = some (waitingPlayer port) := by
      rcases h with rfl | rfl
      · decide
      · decide
    exact .construct hconstruct
  · rcases h with rfl | rfl
    · decide
    · decide

end EventStreamHandler

end Client
end Netplay
