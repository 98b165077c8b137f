import Netplay.Client.CallRun
import Netplay.Client.StartMessage

/-!
# The life cycle of a handler

The header documents three states: not yet started, running from the start of
the console, terminated once the console was stopped.  `documentedStatus` keeps
this book beside a run; `status()` is what the handler itself answers.  No method
assigns `status_` after the constructor (`HandlerCall.run_sameClient`), so the two
agree just as long as no call starts the console (`status_documented_iff`).
-/

namespace Netplay
namespace Client
namespace EventStreamHandler

variable {ButtonsType : Type*}

/-! ### What no call changes -/

theorem SameClient.refl (handler : EventStreamHandler ButtonsType) :
    SameClient handler handler :=
  ⟨rfl, rfl, rfl, rfl⟩

theorem SameClient.trans {handler₁ handler₂ handler₃ : EventStreamHandler ButtonsType}
    (h : SameClient handler₁ handler₂) (h' : SameClient handler₂ handler₃) :
    SameClient handler₁ handler₃ where
  consoleId := h'.consoleId.trans h.consoleId
  clientId := h'.clientId.trans h.clientId
  localPorts := h'.localPorts.trans h.localPorts
  status := h'.status.trans h.status

theorem SameClient.startsConsole_iff {handler handler' : EventStreamHandler ButtonsType}
    (h : SameClient handler handler') (ports : PortEnum) (read : Option IncomingEventPB) :
    StartsConsole ports handler' read ↔ StartsConsole ports handler read := by
  unfold StartsConsole
  rw [h.consoleId, h.localPorts]

theorem putButtons_sameClient (coder : ButtonCoder ButtonsType)
    (tuples : List (ButtonsFrameTuple ButtonsType)) (writeOk : Bool)
    (handler : EventStreamHandler ButtonsType) :
    SameClient handler (handler.putButtons coder tuples writeOk).handler := by
  rw [(putButtons_spec coder tuples writeOk handler).handler_eq]
  exact ⟨rfl, rfl, rfl, rfl⟩

theorem readUntilButtons_sameClient (coder : ButtonCoder ButtonsType) (port : Port) (frame : Int)
    (incoming : List (Option IncomingEventPB)) (handler : EventStreamHandler ButtonsType) :
    SameClient handler (readUntilButtons coder port frame incoming handler).2.2 := by
  induction incoming generalizing handler with
  | nil => exact ⟨rfl, rfl, rfl, rfl⟩
  | cons read incoming ih =>
      have hround : SameClient handler (readEvent coder port frame read handler).2 := by
        rw [(readEvent_spec coder port frame read handler).handler_eq]
        exact ⟨rfl, rfl, rfl, rfl⟩
      rw [readUntilButtons]
      generalize readEvent coder port frame read handler = result at hround
      obtain ⟨status, handler'⟩ := result
      cases status with
      | none => exact hround.trans (ih handler')
      | some status => exact hround

variable [Inhabited ButtonsType]

theorem finishRemoteButtons_sameClient (port : Port) (frame : Int) (buttons : ButtonsType)
    (status : ReadUntilButtonsStatus) (incoming : List (Option IncomingEventPB))
    (handler : EventStreamHandler ButtonsType) :
    SameClient handler
      (finishRemoteButtons port frame buttons status incoming handler).handler := by
  unfold finishRemoteButtons
  split_ifs
  · exact .refl handler
  · cases handler.getQueue port with
    | none => exact .refl handler
    | some queue =>
        simp only
        cases (queue.getButtons frame buttons).status with
        | success => exact ⟨rfl, rfl, rfl, rfl⟩
        | unexpectedFrame => exact ⟨rfl, rfl, rfl, rfl⟩
        | timeout => exact ⟨rfl, rfl, rfl, rfl⟩

theorem getLocalButtons_sameClient (port : Port) (frame : Int) (buttons : ButtonsType)
    (incoming : List (Option IncomingEventPB)) (handler : EventStreamHandler ButtonsType) :
    SameClient handler (handler.getLocalButtons port frame buttons incoming).handler := by
  unfold getLocalButtons
  cases handler.getQueue port with
  | none => exact .refl handler
  | some queue =>
      simp only
      cases (queue.getButtons frame buttons).status with
      | success => exact ⟨rfl, rfl, rfl, rfl⟩
      | unexpectedFrame => exact ⟨rfl, rfl, rfl, rfl⟩
      | timeout => exact ⟨rfl, rfl, rfl, rfl⟩

theorem getRemoteButtons_sameClient (coder : ButtonCoder ButtonsType) (port : Port) (frame : Int)
    (buttons : ButtonsType) (incoming : List (Option IncomingEventPB))
    (handler : EventStreamHandler ButtonsType) :
    SameClient handler
      (handler.getRemoteButtons coder port frame buttons incoming).handler := by
  unfold getRemoteButtons
  cases handler.getQueue port with
  | none => exact .refl handler
  | some queue =>
      have hread : SameClient handler
          (handler.setQueue port (queue.getButtons frame buttons).queue) :=
        ⟨rfl, rfl, rfl, rfl⟩
      simp only
      cases (queue.getButtons frame buttons).status with
      | success => exact hread
      | unexpectedFrame => exact hread
      | timeout =>
          exact (hread.trans (readUntilButtons_sameClient coder port frame incoming _)).trans
            (finishRemoteButtons_sameClient ..)

theorem getButtons_sameClient (coder : ButtonCoder ButtonsType) (port : Port) (frame : Int)
    (buttons : ButtonsType) (incoming : List (Option IncomingEventPB))
    (handler : EventStreamHandler ButtonsType) :
    SameClient handler (handler.getButtons coder port frame buttons incoming).handler := by
  unfold getButtons
  split_ifs
  · exact getLocalButtons_sameClient port frame buttons incoming handler
  · obtain ⟨hconsole, hclient, hlocal, hstatus⟩ := getRemoteButtons_sameClient coder port frame
      buttons incoming (handler.addEvent .remoteKeyStateRequested)
    exact ⟨hconsole, hclient, hlocal, hstatus⟩

/-! ### Runs from the construction -/

/-- A call of any method, with the part of its environment: the outcome of its
`Write` or of its `Read`, or the reads that are there for a `GetButtons`. -/
inductive HandlerCall (ButtonsType : Type*)
  | clientReady (writeOk : Bool)
  | waitForConsoleStart (read : Option IncomingEventPB)
  | play (call : Call ButtonsType) (incoming : List (Option IncomingEventPB))

namespace HandlerCall

/-- The handler after the call. -/
def run (coder : ButtonCoder ButtonsType) (ports : PortEnum) (call : HandlerCall ButtonsType)
    (handler : EventStreamHandler ButtonsType) : EventStreamHandler ButtonsType :=
  match call with
  | .clientReady writeOk => (handler.clientReady writeOk).2.2
  | .waitForConsoleStart read => (handler.waitForConsoleStart ports read).2
  | .play call incoming => (runCall coder call incoming handler).2.2

/-- The call is a `WaitForConsoleStart` that returns true. -/
def starts (ports : PortEnum) (call : HandlerCall ButtonsType)
    (handler : EventStreamHandler ButtonsType) : Bool :=
  match call with
  | .waitForConsoleStart read => (handler.waitForConsoleStart ports read).1
  | _ => false

/-- The outcomes of the reads that the call makes. -/
def reads (coder : ButtonCoder ButtonsType) (call : HandlerCall ButtonsType)
    (handler : EventStreamHandler ButtonsType) : List (Option IncomingEventPB) :=
  match call with
  | .clientReady _ => []
  | .waitForConsoleStart read => [read]
  | .play call incoming =>
      incoming.take (incoming.length - (runCall coder call incoming handler).2.1.length)

/-- A `stop_console` event is read. -/
def stops (coder : ButtonCoder ButtonsType) (call : HandlerCall ButtonsType)
    (handler : EventStreamHandler ButtonsType) : Bool :=
  (call.reads coder handler).any fun read => read.any IncomingEventPB.hasStopConsole

/-- The state that the header documents, after a call. -/
def documentedStatus (coder : ButtonCoder ButtonsType) (ports : PortEnum)
    (call : HandlerCall ButtonsType) (handler : EventStreamHandler ButtonsType) :
    HandlerStatus → HandlerStatus
  | .notYetStarted => if call.starts ports handler then .consoleRunning else .notYetStarted
  | .consoleRunning => if call.stops coder handler then .consoleTerminated else .consoleRunning
  | .consoleTerminated => .consoleTerminated

/-- No call assigns `status_`, or anything else that says who the client is. -/
theorem run_sameClient {handler : EventStreamHandler ButtonsType} (hid : 0 < handler.consoleId)
    (coder : ButtonCoder ButtonsType) (ports : PortEnum) (call : HandlerCall ButtonsType) :
    SameClient handler (call.run coder ports handler) := by
  cases call with
  | clientReady writeOk => exact ⟨rfl, rfl, rfl, rfl⟩
  | waitForConsoleStart read => exact waitForConsoleStart_sameClient hid ports read
  | play call incoming =>
      cases call with
      | putButtons tuples writeOk => exact putButtons_sameClient coder tuples writeOk handler
      | getButtons port frame buttons =>
          exact getButtons_sameClient coder port frame buttons incoming handler

/-- The handler after some calls. -/
def runAll (coder : ButtonCoder ButtonsType) (ports : PortEnum)
    (calls : List (HandlerCall ButtonsType)) (handler : EventStreamHandler ButtonsType) :
    EventStreamHandler ButtonsType :=
  calls.foldl (fun handler call => call.run coder ports handler) handler

theorem runAll_sameClient {handler : EventStreamHandler ButtonsType}
    (hid : 0 < handler.consoleId) (coder : ButtonCoder ButtonsType) (ports : PortEnum)
    (calls : List (HandlerCall ButtonsType)) :
    SameClient handler (runAll coder ports calls handler) := by
  induction calls generalizing handler with
  | nil => exact .refl handler
  | cons call calls ih =>
      have hfirst := call.run_sameClient hid coder ports
      exact hfirst.trans (ih (by rw [hfirst.consoleId]; exact hid))

omit [Inhabited ButtonsType] in
/-- A call starts the console exactly if it reads a message that does. -/
theorem starts_eq_true_iff {handler : EventStreamHandler ButtonsType}
    (hid : 0 < handler.consoleId) (ports : PortEnum) (call : HandlerCall ButtonsType) :
    call.starts ports handler = true ↔
      ∃ read, call = .waitForConsoleStart read ∧ StartsConsole ports handler read := by
  cases call with
  | clientReady writeOk => simp [starts]
  | waitForConsoleStart read =>
      simp only [starts, waitForConsoleStart_eq_true_iff hid]
      constructor
      · intro hstarts
        exact ⟨read, rfl, hstarts⟩
      · rintro ⟨_, ⟨⟩, hstarts⟩
        exact hstarts
  | play call incoming => simp [starts]

end HandlerCall

/-- The handler of a run, beside the state that the header documents. -/
def stepDocumented (coder : ButtonCoder ButtonsType) (ports : PortEnum)
    (s : EventStreamHandler ButtonsType × HandlerStatus) (call : HandlerCall ButtonsType) :
    EventStreamHandler ButtonsType × HandlerStatus :=
  (call.run coder ports s.1, call.documentedStatus coder ports s.1 s.2)

/-- At every point of the run, `status()` is the documented state. -/
def StatusDocumented (coder : ButtonCoder ButtonsType) (ports : PortEnum)
    (handler : EventStreamHandler ButtonsType) (calls : List (HandlerCall ButtonsType)) : Prop :=
  ∀ done, done <+: calls →
    (done.foldl (stepDocumented coder ports) (handler, .notYetStarted)).1.status =
      (done.foldl (stepDocumented coder ports) (handler, .notYetStarted)).2

theorem runs_sameClient {handler : EventStreamHandler ButtonsType} (hid : 0 < handler.consoleId)
    (coder : ButtonCoder ButtonsType) (ports : PortEnum) (calls : List (HandlerCall ButtonsType))
    (status : HandlerStatus) :
    SameClient handler (calls.foldl (stepDocumented coder ports) (handler, status)).1 := by
  induction calls generalizing handler status with
  | nil => exact .refl handler
  | cons call calls ih =>
      have hfirst := call.run_sameClient hid coder ports
      exact hfirst.trans (ih (by rw [hfirst.consoleId]; exact hid) _)

/-- Without a message that starts the console, nothing else is documented. -/
theorem documented_notYetStarted {handler : EventStreamHandler ButtonsType}
    (hid : 0 < handler.consoleId) (coder : ButtonCoder ButtonsType) (ports : PortEnum)
    {calls : List (HandlerCall ButtonsType)}
    (hnever : ∀ read, .waitForConsoleStart read ∈ calls → ¬ StartsConsole ports handler read) :
    (calls.foldl (stepDocumented coder ports) (handler, .notYetStarted)).2 = .notYetStarted := by
  induction calls generalizing handler with
  | nil => rfl
  | cons call calls ih =>
      have hfirst := call.run_sameClient hid coder ports
      have hstays : call.starts ports handler = false := by
        rw [← Bool.not_eq_true, HandlerCall.starts_eq_true_iff hid]
        rintro ⟨read, rfl, hstarts⟩
        exact hnever read List.mem_cons_self hstarts
      have hnext : stepDocumented coder ports (handler, .notYetStarted) call =
          (call.run coder ports handler, .notYetStarted) := by
        simp [stepDocumented, HandlerCall.documentedStatus, hstays]
      rw [List.foldl_cons, hnext]
      apply ih
      · rw [hfirst.consoleId]
        exact hid
      · intro read hread
        rw [hfirst.startsConsole_iff]
        exact hnever read (List.mem_cons_of_mem _ hread)

/-- **`status()` follows the documented life cycle exactly in the runs that never
start the console**: those in which no `WaitForConsoleStart` reads a message
that starts it. -/
theorem status_documented_iff {ports : PortEnum} {consoleId clientId : Int}
    {localPorts : List Port} {timings : List TimingEvent}
    {handler : EventStreamHandler ButtonsType}
    (hconstruct : construct ports consoleId clientId localPorts timings = some handler)
    (coder : ButtonCoder ButtonsType) (calls : List (HandlerCall ButtonsType)) :
    StatusDocumented coder ports handler calls ↔
      ∀ read, .waitForConsoleStart read ∈ calls → ¬ StartsConsole ports handler read := by
  have hid := (Unstarted.construct hconstruct).consoleId_pos
  have hinitial : handler.status = .notYetStarted := by
    simp only [construct, Option.ite_none_left_eq_some, Option.some.injEq] at hconstruct
    obtain ⟨-, -, -, -, -, rfl⟩ := hconstruct
    rfl
  have hstatus : ∀ done : List (HandlerCall ButtonsType),
      (done.foldl (stepDocumented coder ports) (handler, .notYetStarted)).1.status =
        .notYetStarted := by
    intro done
    rw [(runs_sameClient hid coder ports done .notYetStarted).status, hinitial]
  constructor
  · intro hdocumented read hread hstarts
    obtain ⟨before, after, rfl⟩ := List.append_of_mem hread
    -- up to this call the two agree, so the call is the first to start the console
    have hsame := runs_sameClient hid coder ports before .notYetStarted
    have hbefore := hdocumented before ⟨_, rfl⟩
    have hafter := hdocumented (before ++ [.waitForConsoleStart read]) ⟨after, by simp⟩
    rw [hstatus] at hbefore hafter
    rw [List.foldl_append] at hafter
    generalize before.foldl (stepDocumented coder ports) (handler, .notYetStarted) = s
      at hsame hbefore hafter
    have hsucceeds : (HandlerCall.waitForConsoleStart read).starts ports s.1 = true := by
      refine (HandlerCall.starts_eq_true_iff (by rw [hsame.consoleId]; exact hid) _ _).mpr ?_
      exact ⟨read, rfl, (hsame.startsConsole_iff ports read).mpr hstarts⟩
    simp [stepDocumented, ← hbefore, HandlerCall.documentedStatus, hsucceeds] at hafter
  · intro hnever done hdone
    rw [hstatus, documented_notYetStarted hid coder ports fun read hread =>
      hnever read (hdone.subset hread)]

/-- The client of player 1 gets ready and starts. -/
def readyAndStart : List (HandlerCall Int) :=
  [.clientReady true, .waitForConsoleStart (some { startGame := some twoPlayerGame })]

theorem status_documented_iff_unstarted :
    StatusDocumented integerCoder portNumbers (waitingPlayer 1)
      [.clientReady true, .waitForConsoleStart none] := by
  have hconstruct : construct portNumbers 1 1 [1] [] = some (waitingPlayer 1) := by decide
  refine (status_documented_iff hconstruct integerCoder _).mpr ?_
  rintro read hread ⟨event, startGame, rfl, -⟩
  simp at hread

/-- The handler of a running console says that it is not yet started. -/
theorem status_not_documented :
    ¬ ∀ (ports : PortEnum) (consoleId clientId : Int) (localPorts : List Port)
      (timings : List TimingEvent) (handler : EventStreamHandler Int),
      construct ports consoleId clientId localPorts timings = some handler →
      ∀ (coder : ButtonCoder Int) (calls : List (HandlerCall Int)),
        StatusDocumented coder ports handler calls := by
  intro h
  have hdocumented := h portNumbers 1 1 [1] [] (waitingPlayer 1) (by decide) integerCoder
    readyAndStart readyAndStart (List.prefix_refl _)
  have hdiffer : (readyAndStart.foldl (stepDocumented integerCoder portNumbers)
      (waitingPlayer 1, .notYetStarted)).1.status ≠
    (readyAndStart.foldl (stepDocumented integerCoder portNumbers)
      (waitingPlayer 1, .notYetStarted)).2 := by
    decide
  exact hdiffer hdocumented

end EventStreamHandler

end Client
end Netplay
