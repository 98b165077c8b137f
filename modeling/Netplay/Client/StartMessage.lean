import Netplay.Client.ConsoleStart

/-!
# Which messages start the console

`InitializeQueues` makes queues while it is still checking the message, counts
the local ports it meets, and compares the count with the number of local ports.
`StartsConsole` says what the message has to be like, without any of this;
`waitForConsoleStart_eq_true_iff` is the agreement of the two for every handler,
and `start_exact` adds what an attempt leaves behind.
-/

namespace Netplay
namespace Client

/-- A `StartGame` message that a client with this console id and these local
ports can start with. -/
structure StartGamePB.WellFormed (ports : PortEnum) (consoleId : Int)
    (localPorts : Std.ExtTreeSet Port) (startGame : StartGamePB) : Prop where
  consoleId_eq : startGame.consoleId = consoleId
  length_le : startGame.connectedPorts.length ≤ 4
  nodup : (startGame.connectedPorts.map ConnectedPortPB.port).Nodup
  portAny_not_mem : ports.portAny ∉ startGame.connectedPorts.map ConnectedPortPB.port
  local_connected : ∀ port ∈ localPorts,
    port ∈ startGame.connectedPorts.map ConnectedPortPB.port

namespace EventStreamHandler

variable {ButtonsType : Type*}

/-- The outcome of a read that starts the console of this handler. -/
def StartsConsole (ports : PortEnum) (handler : EventStreamHandler ButtonsType)
    (read : Option IncomingEventPB) : Prop :=
  ∃ event startGame, read = some event ∧ event.hasStopConsole = false ∧
    event.startGame = some startGame ∧
    startGame.WellFormed ports handler.consoleId handler.localPorts

/-! ### The loop of `InitializeQueues` -/

/-- Whether the loop gets to its end, and with which count, depends on the listed
ports alone, whatever queues there are. -/
theorem connectPorts_fst_eq_some_iff (ports : PortEnum) (connectedPorts : List ConnectedPortPB)
    (handledPorts : Std.ExtTreeSet Port) (count connected : Nat)
    (handler : EventStreamHandler ButtonsType) :
    (connectPorts ports connectedPorts handledPorts count handler).1 = some connected ↔
      ports.portAny ∉ connectedPorts.map ConnectedPortPB.port ∧
        (connectedPorts.map ConnectedPortPB.port).Nodup ∧
        (∀ port ∈ connectedPorts.map ConnectedPortPB.port, port ∉ handledPorts) ∧
        count + ((connectedPorts.map ConnectedPortPB.port).filter fun port =>
          decide (port ∈ handler.localPorts)).length = connected := by
  induction connectedPorts generalizing handledPorts count handler with
  | nil => simp [connectPorts]
  | cons connectedPort rest ih =>
      rw [connectPorts_cons_eq]
      by_cases hstop : connectedPort.port = ports.portAny ∨ connectedPort.port ∈ handledPorts
      · rw [if_pos hstop]
        constructor
        · rintro ⟨⟩
        · rintro ⟨hany, -, hhandled, -⟩
          rcases hstop with hport | hport
          · exact absurd (by rw [List.map_cons, hport]; exact List.mem_cons_self) hany
          · exact absurd hport (hhandled _ List.mem_cons_self)
      · rw [if_neg hstop, ih]
        obtain ⟨hany, hhandled⟩ := not_or.mp hstop
        simp only [List.map_cons, List.mem_cons, not_or, List.nodup_cons, List.filter_cons,
          Std.ExtTreeSet.mem_insert, Std.compare_eq_iff_eq, forall_eq_or_imp]
        constructor
        · rintro ⟨hanys, hnodup, hnew, hcount⟩
          refine ⟨⟨Ne.symm hany, hanys⟩, ⟨fun hin => (hnew _ hin).1 rfl, hnodup⟩,
            ⟨hhandled, fun port hport => (hnew port hport).2⟩, ?_⟩
          by_cases hlocal : connectedPort.port ∈ handler.localPorts
          · simp only [hlocal, if_true, decide_true, List.length_cons] at hcount ⊢
            omega
          · simpa [hlocal] using hcount
        · rintro ⟨⟨-, hanys⟩, ⟨hnot, hnodup⟩, ⟨-, hrest⟩, hcount⟩
          refine ⟨hanys, hnodup, ?_, ?_⟩
          · rintro port hport
            refine ⟨?_, hrest port hport⟩
            rintro rfl
            exact hnot hport
          · by_cases hlocal : connectedPort.port ∈ handler.localPorts
            · simp only [hlocal, if_true, decide_true, List.length_cons] at hcount ⊢
              omega
            · simpa [hlocal] using hcount

/-- The loop changes nothing but the queues. -/
theorem connectPorts_frame (ports : PortEnum) (connectedPorts : List ConnectedPortPB)
    (handledPorts : Std.ExtTreeSet Port) (count : Nat)
    (handler : EventStreamHandler ButtonsType) :
    (connectPorts ports connectedPorts handledPorts count handler).2 =
      { handler with
        inputQueues :=
          (connectPorts ports connectedPorts handledPorts count handler).2.inputQueues } := by
  induction connectedPorts generalizing handledPorts count handler with
  | nil => rfl
  | cons connectedPort rest ih =>
      rw [connectPorts_cons_eq]
      split_ifs
      · rfl
      · rw [ih]
      · rw [ih]

/-- The count reaches the number of local ports exactly if all of them are
listed. -/
theorem initializeQueues_fst_eq_true_iff (ports : PortEnum)
    (connectedPorts : List ConnectedPortPB) (handler : EventStreamHandler ButtonsType) :
    (initializeQueues ports connectedPorts handler).1 = true ↔
      connectedPorts.length ≤ 4 ∧
        ports.portAny ∉ connectedPorts.map ConnectedPortPB.port ∧
        (connectedPorts.map ConnectedPortPB.port).Nodup ∧
        ∀ port ∈ handler.localPorts, port ∈ connectedPorts.map ConnectedPortPB.port := by
  unfold initializeQueues
  by_cases hlength : connectedPorts.length > 4
  · rw [if_pos hlength]
    constructor
    · rintro ⟨⟩
    · rintro ⟨hle, -⟩
      omega
  rw [if_neg hlength]
  have hloop := fun connected =>
    connectPorts_fst_eq_some_iff ports connectedPorts ∅ 0 connected handler
  have hframe := connectPorts_frame ports connectedPorts ∅ 0 handler
  generalize connectPorts ports connectedPorts ∅ 0 handler = result at hloop hframe
  obtain ⟨outcome, handler'⟩ := result
  have hlocal : handler'.localPorts = handler.localPorts := by
    rw [show handler' = _ from hframe]
  cases outcome with
  | none =>
      constructor
      · rintro ⟨⟩
      · rintro ⟨-, hany, hnodup, -⟩
        have hnone := (hloop _).mpr ⟨hany, hnodup, by simp, rfl⟩
        cases hnone
  | some connected =>
      obtain ⟨hany, hnodup, -, hcount⟩ := (hloop connected).mp rfl
      rw [Nat.zero_add] at hcount
      simp only [decide_eq_true_iff, hlocal]
      rw [← OrderedSet.length_filter_eq_size_iff hnodup, hcount]
      constructor
      · intro hsize
        exact ⟨by omega, hany, hnodup, hsize.symm⟩
      · rintro ⟨-, -, -, hsize⟩
        exact hsize.symm

theorem initializeQueues_frame (ports : PortEnum) (connectedPorts : List ConnectedPortPB)
    (handler : EventStreamHandler ButtonsType) :
    (initializeQueues ports connectedPorts handler).2 =
      { handler with
        inputQueues := (initializeQueues ports connectedPorts handler).2.inputQueues } := by
  unfold initializeQueues
  have hframe := connectPorts_frame ports connectedPorts ∅ 0 handler
  generalize connectPorts ports connectedPorts ∅ 0 handler = result at hframe
  obtain ⟨outcome, handler'⟩ := result
  by_cases hlength : connectedPorts.length > 4
  · rw [if_pos hlength]
  · rw [if_neg hlength]
    cases outcome with
    | none => exact hframe
    | some connected => exact hframe

/-! ### One attempt -/

/-- The handler that `InitializeQueues` is called on. -/
def startGameRead (handler : EventStreamHandler ButtonsType) : EventStreamHandler ButtonsType :=
  (handler.addEvent .startGameEventReadStart).addEvent .startGameEventReadFinish

/-- The outcomes of an attempt: it fails before there are queues, it fails and
drops the queues it made, or it succeeds. -/
inductive StartStep (ports : PortEnum) (read : Option IncomingEventPB)
    (handler : EventStreamHandler ButtonsType) : Bool × EventStreamHandler ButtonsType → Prop
  | ignored
      (hignored : ∀ event startGame, read = some event → event.hasStopConsole = false →
        event.startGame = some startGame → startGame.consoleId ≠ handler.consoleId) :
      StartStep ports read handler (false, handler.startGameRead)
  | dropped {event : IncomingEventPB} {startGame : StartGamePB} (hread : read = some event)
      (hstart : event.startGame = some startGame)
      (hinit : (initializeQueues ports startGame.connectedPorts handler.startGameRead).1 =
        false) :
      StartStep ports read handler (false, { handler.startGameRead with inputQueues := ∅ })
  | started {event : IncomingEventPB} {startGame : StartGamePB} (hread : read = some event)
      (hstop : event.hasStopConsole = false) (hstart : event.startGame = some startGame)
      (hid : startGame.consoleId = handler.consoleId)
      (hinit : (initializeQueues ports startGame.connectedPorts handler.startGameRead).1 =
        true) :
      StartStep ports read handler
        (true, (initializeQueues ports startGame.connectedPorts handler.startGameRead).2)

theorem waitForConsoleStart_step {handler : EventStreamHandler ButtonsType}
    (hid : 0 < handler.consoleId) (ports : PortEnum) (read : Option IncomingEventPB) :
    StartStep ports read handler (handler.waitForConsoleStart ports read) := by
  have hread : (handler.addEvent .startGameEventReadStart).addEvent .startGameEventReadFinish =
    handler.startGameRead := rfl
  have hconsole : handler.startGameRead.consoleId = handler.consoleId := rfl
  unfold waitForConsoleStart
  simp only [hread]
  cases read with
  | none => exact .ignored nofun
  | some event =>
      by_cases hstop : event.hasStopConsole = true
      · simp only [if_pos hstop]
        refine .ignored ?_
        rintro _ _ ⟨⟩ hnotStop
        rw [hstop] at hnotStop
        cases hnotStop
      rw [Bool.not_eq_true] at hstop
      simp only [hstop, Bool.false_eq_true, if_false]
      cases hstart : event.startGame with
      | none =>
          refine .ignored ?_
          rintro _ _ ⟨⟩ - hsome
          rw [hstart] at hsome
          cases hsome
      | some startGame =>
          simp only [hconsole]
          by_cases hsame : startGame.consoleId = handler.consoleId
          · rw [if_neg (by omega)]
            have hframe := initializeQueues_frame ports startGame.connectedPorts
              handler.startGameRead
            cases hinit : initializeQueues ports startGame.connectedPorts
                handler.startGameRead with
            | mk success handler' =>
                rw [hinit] at hframe
                cases success with
                | true =>
                    have hstarted := @StartStep.started _ ports (some event) handler event
                      startGame rfl hstop hstart hsame (by rw [hinit])
                    rw [hinit] at hstarted
                    exact hstarted
                | false =>
                    have hdropped := @StartStep.dropped _ ports (some event) handler event
                      startGame rfl hstart (by rw [hinit])
                    rw [show handler' = _ from hframe]
                    exact hdropped
          · rw [if_pos (Or.inr hsame)]
            refine .ignored ?_
            rintro _ startGame' ⟨⟩ - hsome
            rw [hstart] at hsome
            cases hsome
            exact hsame

/-- An attempt succeeds exactly on a message that starts the console. -/
theorem waitForConsoleStart_eq_true_iff {ports : PortEnum}
    {handler : EventStreamHandler ButtonsType} (hid : 0 < handler.consoleId)
    (read : Option IncomingEventPB) :
    (handler.waitForConsoleStart ports read).1 = true ↔ StartsConsole ports handler read := by
  have hstep := waitForConsoleStart_step hid ports read
  generalize handler.waitForConsoleStart ports read = result at hstep
  have hqueues : ∀ startGame : StartGamePB, _ := fun startGame =>
    initializeQueues_fst_eq_true_iff ports startGame.connectedPorts handler.startGameRead
  cases hstep with
  | ignored hignored =>
      constructor
      · rintro ⟨⟩
      · rintro ⟨event, startGame, hread, hstop, hstart, hwell⟩
        exact absurd hwell.consoleId_eq (hignored event startGame hread hstop hstart)
  | @dropped event startGame hread hstart hinit =>
      constructor
      · rintro ⟨⟩
      · rintro ⟨event', startGame', hread', -, hstart', hwell⟩
        cases hread.symm.trans hread'
        cases hstart.symm.trans hstart'
        have htrue := (hqueues startGame).mpr ⟨hwell.length_le, hwell.portAny_not_mem,
          hwell.nodup, hwell.local_connected⟩
        rw [hinit] at htrue
        cases htrue
  | @started event startGame hread hstop hstart hsame hinit =>
      obtain ⟨hlength, hany, hnodup, hlocal⟩ := (hqueues startGame).mp hinit
      exact ⟨fun _ => ⟨event, startGame, hread, hstop, hstart, hsame, hlength, hnodup, hany,
        hlocal⟩, fun _ => rfl⟩

/-! ### Attempts up to the first success -/

/-- Only the queues and the timing log differ. -/
structure SameClient (handler handler' : EventStreamHandler ButtonsType) : Prop where
  consoleId : handler'.consoleId = handler.consoleId
  clientId : handler'.clientId = handler.clientId
  localPorts : handler'.localPorts = handler.localPorts
  status : handler'.status = handler.status

/-- An attempt, successful or not, is made by the same client. -/
theorem waitForConsoleStart_sameClient {handler : EventStreamHandler ButtonsType}
    (hid : 0 < handler.consoleId) (ports : PortEnum) (read : Option IncomingEventPB) :
    SameClient handler (handler.waitForConsoleStart ports read).2 := by
  have hstep := waitForConsoleStart_step hid ports read
  generalize handler.waitForConsoleStart ports read = result at hstep
  cases hstep with
  | ignored _ => exact ⟨rfl, rfl, rfl, rfl⟩
  | dropped _ _ _ => exact ⟨rfl, rfl, rfl, rfl⟩
  | @started event startGame _ _ _ _ _ =>
      rw [initializeQueues_frame]
      exact ⟨rfl, rfl, rfl, rfl⟩

theorem Unstarted.consoleId_pos {ports : PortEnum} {handler : EventStreamHandler ButtonsType}
    (h : Unstarted ports handler) : 0 < handler.consoleId := by
  induction h with
  | construct h =>
      simp only [EventStreamHandler.construct, Option.ite_none_left_eq_some,
        Option.some.injEq] at h
      obtain ⟨hpos, -, -, -, -, rfl⟩ := h
      exact Int.not_le.mp hpos
  | clientReady _ _ ih => exact ih
  | @notStarted handler handler' _ read hwait ih =>
      have hkeeps := (waitForConsoleStart_sameClient ih ports read).consoleId
      rw [hwait] at hkeeps
      rw [hkeeps]
      exact ih

theorem mem_remotePorts {handler : EventStreamHandler ButtonsType} {port : Port} :
    port ∈ handler.remotePorts ↔ port ∈ handler.inputQueues ∧ port ∉ handler.localPorts := by
  simp [remotePorts]

/-- The remote ports of a started handler are those listed that are not local. -/
theorem Started.mem_remotePorts {ports : PortEnum} {connectedPorts : List ConnectedPortPB}
    {handler : EventStreamHandler ButtonsType} (h : Started ports connectedPorts handler)
    {port : Port} :
    port ∈ handler.remotePorts ↔
      port ∈ connectedPorts.map ConnectedPortPB.port ∧ port ∉ handler.localPorts := by
  rw [EventStreamHandler.mem_remotePorts, Std.ExtTreeMap.mem_iff_isSome_getElem?]
  refine and_congr_left fun _ => ⟨fun hsome => ?_, fun hlisted => ?_⟩
  · by_contra hnot
    rw [h.queue_of_not_mem port hnot] at hsome
    cases hsome
  · obtain ⟨connectedPort, hconnected, rfl⟩ := List.mem_map.mp hlisted
    rw [h.queue_of_mem connectedPort hconnected]
    rfl

/-- What the handler answers while it has no queues. -/
theorem no_queues {handler : EventStreamHandler ButtonsType} (h : handler.inputQueues = ∅) :
    handler.remotePorts = ∅ ∧ ∀ port, handler.delayFramesForPort port = -1 := by
  constructor
  · apply Std.ExtTreeSet.ext_mem
    intro port
    simp [mem_remotePorts, h]
  · intro port
    simp [delayFramesForPort, h]

/-- **A console starts on exactly the well-formed messages.**  In every attempt
up to the first that succeeds: it succeeds exactly on such a message, a failed
one leaves no queue behind, and the successful one leaves one fresh queue for
each listed port, local or remote, and no other. -/
theorem start_exact {ports : PortEnum} {handler : EventStreamHandler ButtonsType}
    (h : Unstarted ports handler) (read : Option IncomingEventPB) :
    ((handler.waitForConsoleStart ports read).1 = true ↔ StartsConsole ports handler read) ∧
      ((handler.waitForConsoleStart ports read).1 = false →
        (handler.waitForConsoleStart ports read).2.inputQueues = ∅ ∧
          (handler.waitForConsoleStart ports read).2.remotePorts = ∅ ∧
          ∀ port, (handler.waitForConsoleStart ports read).2.delayFramesForPort port = -1) ∧
      ∀ event startGame, read = some event → event.startGame = some startGame →
        (handler.waitForConsoleStart ports read).1 = true →
        (∀ connectedPort ∈ startGame.connectedPorts,
          (handler.waitForConsoleStart ports read).2.inputQueues[connectedPort.port]? =
            some (if connectedPort.port ∈ handler.localPorts then
                InputQueue.makeLocalQueue connectedPort.delayFrames
              else InputQueue.makeRemoteQueue connectedPort.delayFrames)) ∧
          (∀ port ∉ startGame.connectedPorts.map ConnectedPortPB.port,
            (handler.waitForConsoleStart ports read).2.inputQueues[port]? = none) ∧
          ∀ port, port ∈ (handler.waitForConsoleStart ports read).2.remotePorts ↔
            port ∈ startGame.connectedPorts.map ConnectedPortPB.port ∧
              port ∉ handler.localPorts := by
  have hid := h.consoleId_pos
  refine ⟨waitForConsoleStart_eq_true_iff hid read, ?_, ?_⟩
  · intro hfalse
    have hempty : (handler.waitForConsoleStart ports read).2.inputQueues = ∅ := by
      rcases waitForConsoleStart_false (Prod.ext hfalse rfl) with hsame | hempty
      · rw [hsame, h.inputQueues_eq]
      · exact hempty
    exact ⟨hempty, no_queues hempty⟩
  · rintro event startGame rfl hstart htrue
    have hlocal := (waitForConsoleStart_sameClient hid ports (some event)).localPorts
    have hstarted : Started ports startGame.connectedPorts
        (handler.waitForConsoleStart ports (some event)).2 :=
      StartedBy.started ⟨handler, event, startGame, h, hstart, rfl, Prod.ext htrue rfl⟩
    generalize (handler.waitForConsoleStart ports (some event)).2 = handler' at hlocal hstarted ⊢
    refine ⟨?_, hstarted.queue_of_not_mem, ?_⟩
    · intro connectedPort hconnected
      rw [hstarted.queue_of_mem connectedPort hconnected, freshQueue, hlocal]
    · intro port
      rw [hstarted.mem_remotePorts, hlocal]

/-- The two-player game starts for the client of player 1, with a local queue for
its own port and a remote one for the other. -/
theorem start_exact_twoPlayers :
    ((waitingPlayer 1).waitForConsoleStart portNumbers
        (some { startGame := some twoPlayerGame })).1 = true ∧
      ∀ port, port ∈ ((waitingPlayer 1).waitForConsoleStart portNumbers
          (some { startGame := some twoPlayerGame })).2.remotePorts ↔
        port ∈ twoPorts.map ConnectedPortPB.port ∧ port ∉ (waitingPlayer 1).localPorts := by
  have hunstarted : Unstarted portNumbers (waitingPlayer 1) :=
    .construct (show construct portNumbers 1 1 [1] [] = _ by decide)
  have hstarts : ((waitingPlayer 1).waitForConsoleStart portNumbers
      (some { startGame := some twoPlayerGame })).1 = true := by
    decide
  exact ⟨hstarts, ((start_exact hunstarted _).2.2 _ twoPlayerGame rfl rfl hstarts).2.2⟩

end EventStreamHandler

end Client
end Netplay
