import Netplay.Client.CallRun

/-!
# Arrival order and batching do not matter

A client whose stream still holds a set of fresh key presses will read, for each
frame, what is buffered now or carried by one of these presses, wherever it
stands in the stream.  `available` is that value.

* `available_insertTuples`: reading ahead moves values from the stream into the
  queues and leaves `available` as it is.
* `resumeGetButtons_fresh` is the exact result of a read of the stream, and
  `Tracks.request` that of one request.
* `arrival_order`: a run of requests returns what is available, so permuting and
  re-batching the key presses changes nothing.
-/

namespace Netplay
namespace Client
namespace EventStreamHandler

variable {ButtonsType : Type*}

/-- The key presses of some events. -/
def pressesOf (events : List IncomingEventPB) : List KeyStatePB :=
  events.flatMap IncomingEventPB.keyPress

/-- The events carry nothing but key presses that decode to these tuples, each
for a connected remote port, inside its window, with distinct slots, none of them
buffered or delivered before. -/
structure FreshPresses (coder : ButtonCoder ButtonsType) (handler : EventStreamHandler ButtonsType)
    (events : List IncomingEventPB) (tuples : List (ButtonsFrameTuple ButtonsType)) : Prop where
  plain : ∀ event ∈ events, Plain event
  decodes : List.Forall₂ (Decodes coder) (pressesOf events) tuples
  remote : ∀ tuple ∈ tuples, tuple.port ∉ handler.localPorts
  connected : ∀ tuple ∈ tuples, ∃ queue, handler.inputQueues[tuple.port]? = some queue ∧
    0 ≤ tuple.frame ∧ queue.initialFrameDelay ≤ tuple.frame ∧ ¬ queue.Seen tuple.frame
  distinct : (tuples.map fun tuple => (tuple.port, tuple.frame)).Nodup

/-- The ports without a delay of their own: the sender has applied it. -/
def Undelayed (queues : QueueMap ButtonsType) (port : Port) : Prop :=
  ∀ queue, queues[port]? = some queue → queue.delayFrames = 0

theorem Undelayed.evolves {queues queues' : QueueMap ButtonsType} {port : Port}
    (h : Undelayed queues port) (hevolves : QueueMap.Evolves queues queues') :
    Undelayed queues' port := by
  intro queue' hqueue'
  rcases hevolves port with ⟨-, hnone⟩ | ⟨queue, queue₁, hqueue, hqueue₁, hsame⟩
  · rw [hqueue'] at hnone
    cases hnone
  · rw [hqueue'] at hqueue₁
    cases hqueue₁
    rw [hsame.delayFrames]
    exact h queue hqueue

variable [Inhabited ButtonsType]

/-- The value a queue holds for a frame now. -/
def lookup (queues : QueueMap ButtonsType) (port : Port) (frame : Int) : Option ButtonsType :=
  match queues[port]? with
  | none => none
  | some queue => queue.buttonsAt frame

/-- The value that a queue holds for a frame, or else the one that is still to
come for it. -/
def available (queues : QueueMap ButtonsType) (tuples : List (ButtonsFrameTuple ButtonsType))
    (port : Port) (frame : Int) : Option ButtonsType :=
  (lookup queues port frame).or
    ((tuples.find? fun tuple => IsFor port frame tuple).map ButtonsFrameTuple.buttons)

/-! ### Reading ahead -/

theorem lookup_insertTuple_of_not_isFor {queues : QueueMap ButtonsType}
    {tuple : ButtonsFrameTuple ButtonsType} (hdelay : Undelayed queues tuple.port)
    {port : Port} {frame : Int} (hfor : ¬ IsFor port frame tuple) :
    lookup (QueueMap.insertTuple queues tuple) port frame = lookup queues port frame := by
  unfold lookup
  rw [QueueMap.getElem?_insertTuple]
  by_cases hport : tuple.port = port
  · subst hport
    rw [if_pos rfl]
    cases hqueue : queues[tuple.port]? with
    | none => rfl
    | some queue =>
        have hne : queue.delayedFrame tuple.frame ≠ frame := by
          rw [InputQueue.delayedFrame, hdelay queue hqueue, Int.add_zero]
          exact fun hframe => hfor ⟨rfl, hframe⟩
        simp [InputQueue.buttonsAt, hne]
  · rw [if_neg hport]

theorem lookup_insertTuple_of_isFor {queues : QueueMap ButtonsType}
    {tuple : ButtonsFrameTuple ButtonsType} (hdelay : Undelayed queues tuple.port)
    (haccepts : QueueMap.Accepts queues tuple.port tuple.frame) :
    lookup queues tuple.port tuple.frame = none ∧
      lookup (QueueMap.insertTuple queues tuple) tuple.port tuple.frame =
        some tuple.buttons := by
  obtain ⟨queue, hqueue, -, hinitial, hnew⟩ := haccepts
  have hdelayed : queue.delayedFrame tuple.frame = tuple.frame := by
    rw [InputQueue.delayedFrame, hdelay queue hqueue, Int.add_zero]
  rw [hdelayed] at hinitial hnew
  have habsent : tuple.frame ∉ queue.frameButtons := fun hmem => hnew (Or.inr hmem)
  have hwindow : ¬ tuple.frame < queue.initialFrameDelay := by omega
  unfold lookup
  rw [QueueMap.getElem?_insertTuple, if_pos rfl, hqueue]
  constructor
  · simp [InputQueue.buttonsAt, hwindow, Std.ExtTreeMap.getElem?_eq_none habsent]
  · show (queue.insertButtons tuple.frame tuple.buttons).buttonsAt tuple.frame = _
    rw [InputQueue.buttonsAt, InputQueue.insertButtons_initialFrameDelay, if_neg hwindow,
      InputQueue.insertButtons_getElem?, if_pos hdelayed]

/-- Taking a tuple off the stream and into its queue. -/
theorem available_insertTuple {queues : QueueMap ButtonsType}
    {tuple : ButtonsFrameTuple ButtonsType} (hdelay : Undelayed queues tuple.port)
    (haccepts : QueueMap.Accepts queues tuple.port tuple.frame)
    (tuples : List (ButtonsFrameTuple ButtonsType)) :
    available (QueueMap.insertTuple queues tuple) tuples = available queues (tuple :: tuples) := by
  funext port frame
  unfold available
  by_cases hfor : IsFor port frame tuple
  · obtain ⟨rfl, rfl⟩ := hfor
    obtain ⟨hbefore, hafter⟩ := lookup_insertTuple_of_isFor hdelay haccepts
    simp [hbefore, hafter, IsFor]
  · rw [lookup_insertTuple_of_not_isFor hdelay hfor, List.find?_cons_of_neg (by simpa using hfor)]

theorem available_insertTuples {queues : QueueMap ButtonsType}
    {taken : List (ButtonsFrameTuple ButtonsType)}
    (hdelays : ∀ tuple ∈ taken, Undelayed queues tuple.port)
    (hturn : QueueMap.InTurn queues taken) (tuples : List (ButtonsFrameTuple ButtonsType)) :
    available (QueueMap.insertTuples queues taken) tuples = available queues (taken ++ tuples) := by
  induction taken generalizing queues with
  | nil => rfl
  | cons tuple taken ih =>
      have hevolves := QueueMap.evolves_insertTuple queues tuple
      rw [QueueMap.insertTuples_cons, ih (fun t ht =>
          (hdelays t (List.mem_cons_of_mem _ ht)).evolves hevolves) hturn.2,
        available_insertTuple (hdelays tuple List.mem_cons_self) hturn.1]
      rfl

theorem available_nil (queues : QueueMap ButtonsType) (port : Port) (frame : Int) :
    available queues [] port frame = lookup queues port frame := by
  simp [available]

/-- Handing out a frame changes nothing but that frame. -/
theorem available_advance {queues : QueueMap ButtonsType} {port k : Port} {frame : Int}
    (tuples : List (ButtonsFrameTuple ButtonsType))
    (hne : ∀ queue, queues[k]? = some queue → port = k → queue.expectedFrame ≠ frame) :
    available (QueueMap.advance queues port) tuples k frame = available queues tuples k frame := by
  have hlookup : lookup (QueueMap.advance queues port) k frame = lookup queues k frame := by
    unfold lookup
    rw [QueueMap.getElem?_advance]
    by_cases hport : port = k
    · rw [if_pos hport]
      cases hqueue : queues[k]? with
      | none => rfl
      | some queue => simp [InputQueue.buttonsAt, hne queue hqueue hport]
    · rw [if_neg hport]
  unfold available
  rw [hlookup]

theorem ready_iff_lookup {queues : QueueMap ButtonsType} {port : Port} {frame : Int}
    {queue : InputQueue ButtonsType} (hqueue : queues[port]? = some queue)
    (hframe : frame = queue.expectedFrame) {value : ButtonsType} :
    Ready queues port frame value ↔ lookup queues port frame = some value := by
  rw [ready_iff hqueue, lookup, hqueue]
  exact and_iff_right hframe

theorem awaits_iff_lookup {queues : QueueMap ButtonsType} {port : Port} {frame : Int}
    {queue : InputQueue ButtonsType} (hqueue : queues[port]? = some queue)
    (hframe : frame = queue.expectedFrame) :
    Awaits queues port frame ↔ lookup queues port frame = none := by
  rw [awaits_iff hqueue, lookup, hqueue]
  exact and_iff_right hframe

/-! ### One request -/

/-- What is left of a stream of key presses, and of the tuples it carries, when
some tuples have been taken off its front. -/
structure Rest (coder : ButtonCoder ButtonsType)
    (tuples taken : List (ButtonsFrameTuple ButtonsType))
    (incoming : List (Option IncomingEventPB)) (events : List IncomingEventPB)
    (rest : List (ButtonsFrameTuple ButtonsType)) : Prop where
  incoming_eq : incoming = events.map some
  split : tuples = taken ++ rest
  plain : ∀ event ∈ events, Plain event
  decodes : List.Forall₂ (Decodes coder) (pressesOf events) rest

/-- The result of a request, given the value available for it and the queues once
the call has stopped reading. -/
inductive Answers (queues : QueueMap ButtonsType) (port : Port) (frame : Int)
    (buttons : ButtonsType) : Option ButtonsType → GetButtonsStatus → ButtonsType →
      QueueMap ButtonsType → Prop
  | success {value : ButtonsType} (hready : Ready queues port frame value) :
      Answers queues port frame buttons (some value) .success value
        (QueueMap.advance queues port)
  | failure : Answers queues port frame buttons none .failure buttons queues

/-- The outcome of a call that ends when its frame is ready. -/
theorem EndsWith.answers {port : Port} {frame : Int} {buttons value : ButtonsType}
    {incoming : List (Option IncomingEventPB)} {handler : EventStreamHandler ButtonsType}
    {result : GetButtonsResult ButtonsType}
    (h : EndsWith port frame buttons incoming handler result)
    (hready : Ready handler.inputQueues port frame value) (hsuccess : result.status = .success) :
    Answers handler.inputQueues port frame buttons (some value) result.status result.buttons
      result.handler.inputQueues := by
  have hdelivers := h.delivers
  generalize result.status = status, result.buttons = bs,
    result.handler.inputQueues = queues' at hdelivers hsuccess ⊢
  cases hdelivers with
  | success hready' =>
      rw [hready.unique hready']
      exact .success hready'
  | failed hstatus => exact absurd hsuccess hstatus

/-- What a waiting call will find in the queue once some tuples are in. -/
theorem lookup_insertTuples {queues : QueueMap ButtonsType} {port : Port} {frame : Int}
    (hawaits : Awaits queues port frame) {taken : List (ButtonsFrameTuple ButtonsType)}
    (hdelays : ∀ tuple ∈ taken, Undelayed queues tuple.port)
    (hturn : QueueMap.InTurn queues taken) :
    lookup (QueueMap.insertTuples queues taken) port frame =
      (taken.find? fun tuple => IsFor port frame tuple).map ButtonsFrameTuple.buttons := by
  obtain ⟨queue, hqueue, -, hvalue⟩ := hawaits
  have hbefore : lookup queues port frame = none := by
    rw [lookup, hqueue]
    exact hvalue
  have hmoved := congrFun (congrFun (available_insertTuples hdelays hturn []) port) frame
  rw [available_nil, List.append_nil] at hmoved
  rw [hmoved, available, hbefore, Option.none_or]

omit [Inhabited ButtonsType] in
/-- The tuples of the first event, and those of the events behind it. -/
theorem decodes_cons {coder : ButtonCoder ButtonsType} {event : IncomingEventPB}
    {events : List IncomingEventPB} {tuples : List (ButtonsFrameTuple ButtonsType)}
    (h : List.Forall₂ (Decodes coder) (pressesOf (event :: events)) tuples) :
    ∃ first behind, tuples = first ++ behind ∧
      List.Forall₂ (Decodes coder) event.keyPress first ∧
      List.Forall₂ (Decodes coder) (pressesOf events) behind := by
  refine ⟨tuples.take event.keyPress.length, tuples.drop event.keyPress.length,
    (List.take_append_drop _ _).symm, ?_, ?_⟩
  · have hfirst := List.forall₂_take event.keyPress.length h
    rwa [pressesOf, List.flatMap_cons, List.take_left] at hfirst
  · have hbehind := List.forall₂_drop event.keyPress.length h
    rwa [pressesOf, List.flatMap_cons, List.drop_left] at hbehind

/-- **A read of the stream.**  A call that waits for a frame takes whole events
off the stream.  It stops with the one that carries the frame, or fails when the
stream is exhausted. -/
theorem resumeGetButtons_fresh (coder : ButtonCoder ButtonsType) {port : Port} {frame : Int}
    (buttons : ButtonsType) {events : List IncomingEventPB}
    {tuples : List (ButtonsFrameTuple ButtonsType)} {handler : EventStreamHandler ButtonsType}
    (hvalid : QueueMap.Valid handler.inputQueues) (hplain : ∀ event ∈ events, Plain event)
    (hdecodes : List.Forall₂ (Decodes coder) (pressesOf events) tuples)
    (hturn : QueueMap.InTurn handler.inputQueues tuples)
    (hdelays : ∀ tuple ∈ tuples, Undelayed handler.inputQueues tuple.port)
    (hawaits : Awaits handler.inputQueues port frame) :
    ∃ events' taken rest,
      Rest coder tuples taken
          (resumeGetButtons coder port frame buttons (events.map some) handler).incoming
          events' rest ∧
        Answers (QueueMap.insertTuples handler.inputQueues taken) port frame buttons
          (available handler.inputQueues tuples port frame)
          (resumeGetButtons coder port frame buttons (events.map some) handler).status
          (resumeGetButtons coder port frame buttons (events.map some) handler).buttons
          (resumeGetButtons coder port frame buttons
            (events.map some) handler).handler.inputQueues := by
  induction events generalizing tuples handler with
  | nil =>
      cases hdecodes
      obtain ⟨queue, hqueue, hframe, hvalue⟩ := hawaits
      have hnone : available handler.inputQueues [] port frame = none := by
        rw [available_nil, lookup, hqueue]
        exact hvalue
      rw [hnone]
      exact ⟨[], [], [], ⟨rfl, rfl, by simp, .nil⟩, .failure⟩
  | cons event events ih =>
      have hevent := hplain event List.mem_cons_self
      have hplainBehind : ∀ other ∈ events, Plain other :=
        fun other hother => hplain other (List.mem_cons_of_mem _ hother)
      obtain ⟨first, behind, rfl, hfirst, hbehind⟩ := decodes_cons hdecodes
      obtain ⟨hturnFirst, hturnBehind⟩ := QueueMap.inTurn_append.mp hturn
      have hdelaysFirst : ∀ tuple ∈ first, Undelayed handler.inputQueues tuple.port :=
        fun tuple htuple => hdelays tuple (List.mem_append_left _ htuple)
      have hlookup := lookup_insertTuples hawaits hdelaysFirst hturnFirst
      have havailable := available_insertTuples hdelaysFirst hturnFirst behind
      obtain ⟨-, hstatus, hqueues⟩ := readEvent_of_inTurn port frame
        ⟨hevent, hfirst, hturnFirst⟩
      rw [List.map_cons, resumeGetButtons, ← havailable]
      generalize readEvent coder port frame (some event) handler = round at hstatus hqueues ⊢
      obtain ⟨outcome, handler'⟩ := round
      simp only at hstatus hqueues
      have hvalid' : QueueMap.Valid handler'.inputQueues := by
        rw [hqueues]
        exact hvalid.insertTuples hturnFirst
      obtain ⟨queue, hqueue, hframe, -⟩ := hawaits
      obtain ⟨queue', hqueue', hexpected⟩ := QueueMap.insertTuples_expectedFrame first hqueue
      rw [← hexpected] at hframe
      rw [← hqueues] at hlookup hqueue' ⊢
      -- the round is the last one exactly if it brought the frame
      by_cases hfound : ∃ tuple ∈ first, IsFor port frame tuple
      · rw [if_pos hfound] at hstatus
        subst hstatus
        obtain ⟨tuple, htuple⟩ : ∃ tuple,
            first.find? (fun tuple => IsFor port frame tuple) = some tuple := by
          rw [← Option.isSome_iff_exists, List.find?_isSome]
          simpa using hfound
        rw [htuple] at hlookup
        have hready := (ready_iff_lookup hqueue' hframe).mpr hlookup
        obtain ⟨hends, hsuccess⟩ := concludeGetButtons_endsWith hvalid' port frame buttons
          .gotButtons (events.map some)
        refine ⟨events, first, behind, ⟨hends.incoming_eq, rfl, hplainBehind, hbehind⟩, ?_⟩
        rw [available, hlookup, ← hqueues]
        exact hends.answers hready (hsuccess rfl _ hready)
      · rw [if_neg hfound] at hstatus
        subst hstatus
        have hnone : first.find? (fun tuple => IsFor port frame tuple) = none := by
          rw [List.find?_eq_none]
          intro tuple htuple hfor
          exact hfound ⟨tuple, htuple, by simpa using hfor⟩
        rw [hnone] at hlookup
        have hawaits' := (awaits_iff_lookup hqueue' hframe).mpr hlookup
        have hdelays' : ∀ tuple ∈ behind, Undelayed handler'.inputQueues tuple.port := by
          intro tuple htuple
          rw [hqueues]
          exact (hdelays tuple (List.mem_append_right _ htuple)).evolves
            (QueueMap.evolves_insertTuples _ _)
        rw [← hqueues] at hturnBehind
        obtain ⟨events', taken, rest, hrest, hanswers⟩ :=
          ih hvalid' hplainBehind hbehind hturnBehind hdelays' hawaits'
        refine ⟨events', first ++ taken, rest,
          ⟨hrest.incoming_eq, ?_, hrest.plain, hrest.decodes⟩, ?_⟩
        · rw [hrest.split, List.append_assoc]
        · rw [QueueMap.insertTuples_append, ← hqueues]
          exact hanswers

theorem getButtons_answers (coder : ButtonCoder ButtonsType) {port : Port} {frame : Int}
    (buttons : ButtonsType) {events : List IncomingEventPB}
    {tuples : List (ButtonsFrameTuple ButtonsType)} {handler : EventStreamHandler ButtonsType}
    (hvalid : QueueMap.Valid handler.inputQueues) (hplain : ∀ event ∈ events, Plain event)
    (hdecodes : List.Forall₂ (Decodes coder) (pressesOf events) tuples)
    (hturn : QueueMap.InTurn handler.inputQueues tuples)
    (hdelays : ∀ tuple ∈ tuples, Undelayed handler.inputQueues tuple.port)
    (hremote : port ∉ handler.localPorts)
    (hcursor : QueueMap.cursorOf handler.inputQueues port = some frame) :
    ∃ events' taken rest,
      Rest coder tuples taken
          (handler.getButtons coder port frame buttons (events.map some)).incoming events' rest ∧
        Answers (QueueMap.insertTuples handler.inputQueues taken) port frame buttons
          (available handler.inputQueues tuples port frame)
          (handler.getButtons coder port frame buttons (events.map some)).status
          (handler.getButtons coder port frame buttons (events.map some)).buttons
          (handler.getButtons coder port frame buttons (events.map some)).handler.inputQueues := by
  obtain ⟨queue, hqueue, hframe⟩ := Option.map_eq_some_iff.mp hcursor
  cases hlookup : lookup handler.inputQueues port frame with
  | none =>
      have hawaits := (awaits_iff_lookup hqueue hframe.symm).mpr hlookup
      rw [getButtons_of_mustRead coder buttons (events.map some) hvalid ⟨hremote, hawaits⟩]
      exact @resumeGetButtons_fresh _ _ coder port frame buttons events tuples
        (handler.addEvent .remoteKeyStateRequested) hvalid hplain hdecodes hturn hdelays hawaits
  | some value =>
      have hready := (ready_iff_lookup hqueue hframe.symm).mpr hlookup
      obtain ⟨hends, hsuccess⟩ := getButtons_of_not_mustRead coder buttons (events.map some) hvalid
        fun hmust => hready.not_awaits hmust.2
      refine ⟨events, [], tuples, ⟨hends.incoming_eq, rfl, hplain, hdecodes⟩, ?_⟩
      rw [available, hlookup]
      exact hends.answers hready (hsuccess value hready)

/-! ### Runs of requests -/

/-- `avail` says what each remote port will still read: now from its queue, or
once the stream has brought it. -/
structure Tracks (coder : ButtonCoder ButtonsType) (localPorts : Std.ExtTreeSet Port)
    (queues : QueueMap ButtonsType) (events : List IncomingEventPB)
    (tuples : List (ButtonsFrameTuple ButtonsType))
    (avail : Port → Int → Option ButtonsType) : Prop where
  valid : QueueMap.Valid queues
  plain : ∀ event ∈ events, Plain event
  decodes : List.Forall₂ (Decodes coder) (pressesOf events) tuples
  inTurn : QueueMap.InTurn queues tuples
  remote : ∀ tuple ∈ tuples, tuple.port ∉ localPorts
  undelayed : ∀ port ∉ localPorts, Undelayed queues port
  available_eq : ∀ port cursor, QueueMap.cursorOf queues port = some cursor →
    ∀ frame, cursor ≤ frame → available queues tuples port frame = avail port frame

section Tracking

variable {coder : ButtonCoder ButtonsType} {localPorts : Std.ExtTreeSet Port}
  {queues : QueueMap ButtonsType} {events : List IncomingEventPB}
  {tuples : List (ButtonsFrameTuple ButtonsType)} {avail : Port → Int → Option ButtonsType}

/-- Taking events off the stream keeps what is tracked. -/
theorem Tracks.insertTuples (h : Tracks coder localPorts queues events tuples avail)
    {taken rest : List (ButtonsFrameTuple ButtonsType)} {incoming : List (Option IncomingEventPB)}
    {events' : List IncomingEventPB} (hrest : Rest coder tuples taken incoming events' rest) :
    Tracks coder localPorts (QueueMap.insertTuples queues taken) events' rest avail := by
  obtain ⟨-, rfl, hplain, hdecodes⟩ := hrest
  obtain ⟨hturnTaken, hturnRest⟩ := QueueMap.inTurn_append.mp h.inTurn
  have hevolves := QueueMap.evolves_insertTuples queues taken
  refine ⟨h.valid.insertTuples hturnTaken, hplain, hdecodes, hturnRest, ?_, ?_, ?_⟩
  · exact fun tuple htuple => h.remote tuple (List.mem_append_right _ htuple)
  · exact fun port hport => (h.undelayed port hport).evolves hevolves
  · intro port cursor hcursor frame hframe
    rw [QueueMap.cursorOf_insertTuples] at hcursor
    rw [available_insertTuples (fun tuple htuple =>
      h.undelayed _ (h.remote tuple (List.mem_append_left _ htuple))) hturnTaken]
    exact h.available_eq port cursor hcursor frame hframe

/-- Handing out a frame that is there keeps what is tracked. -/
theorem Tracks.advance (h : Tracks coder localPorts queues events tuples avail) {port : Port}
    {frame : Int} {value : ButtonsType} (hready : Ready queues port frame value) :
    Tracks coder localPorts (QueueMap.advance queues port) events tuples avail := by
  have hevolves := QueueMap.evolves_advance queues port
  have hcursor := hready.cursorOf
  have hdelays : QueueMap.HasDelays queues
      (fun k => (queues[k]?).elim 0 InputQueue.delayFrames) := by
    intro k queue' hqueue'
    simp [hqueue']
  refine ⟨h.valid.advance port, h.plain, h.decodes, ?_, h.remote, ?_, ?_⟩
  · rw [QueueMap.inTurn_iff (hdelays.evolves hevolves)]
    obtain ⟨haccepts, hnodup⟩ := (QueueMap.inTurn_iff hdelays).mp h.inTurn
    refine ⟨fun tuple htuple => ?_, hnodup⟩
    exact (haccepts tuple htuple).advance fun _ hqueue => hready.there hqueue
  · exact fun k hk => (h.undelayed k hk).evolves hevolves
  · intro k cursor hcursor' frame' hframe'
    rw [QueueMap.cursorOf_advance hcursor] at hcursor'
    by_cases hk : port = k
    · subst hk
      rw [if_pos rfl] at hcursor'
      cases hcursor'
      -- only frames behind the new cursor could have been affected
      rw [available_advance tuples ?_]
      · exact h.available_eq port frame hcursor frame' (by omega)
      · intro queue hqueue _
        have hframe := ((ready_iff hqueue).mp hready).1
        omega
    · rw [if_neg hk] at hcursor'
      rw [available_advance tuples (fun _ _ hsame => absurd hsame hk)]
      exact h.available_eq k cursor hcursor' frame' hframe'

end Tracking

/-- The outcome of a request when `avail` is tracked. -/
def expectedOutcome (avail : Port → Int → Option ButtonsType) (buttons : ButtonsType)
    (request : Port × Int) : Outcome ButtonsType :=
  match avail request.1 request.2 with
  | some value => .get .success value
  | none => .get .failure buttons

/-- One request: its outcome, the cursors after it, and what is tracked then. -/
theorem Tracks.request {coder : ButtonCoder ButtonsType} {handler : EventStreamHandler ButtonsType}
    {events : List IncomingEventPB} {tuples : List (ButtonsFrameTuple ButtonsType)}
    {avail : Port → Int → Option ButtonsType}
    (h : Tracks coder handler.localPorts handler.inputQueues events tuples avail)
    (buttons : ButtonsType) {port : Port} {frame : Int} (hremote : port ∉ handler.localPorts)
    (hcursor : QueueMap.cursorOf handler.inputQueues port = some frame) :
    ∃ events' tuples' handler',
      runCall coder (.getButtons port frame buttons) (events.map some) handler =
          (expectedOutcome avail buttons (port, frame), events'.map some, handler') ∧
        handler'.localPorts = handler.localPorts ∧
        Tracks coder handler'.localPorts handler'.inputQueues events' tuples' avail ∧
        ∀ k, QueueMap.cursorOf handler'.inputQueues k =
          if port = k ∧ (avail port frame).isSome then some (frame + 1)
          else QueueMap.cursorOf handler.inputQueues k := by
  obtain ⟨events', taken, rest, hrest, hanswers⟩ := getButtons_answers coder buttons h.valid h.plain
    h.decodes h.inTurn (fun tuple htuple => h.undelayed _ (h.remote tuple htuple)) hremote hcursor
  have hlocal := (getButtons_evolves coder port frame buttons (events.map some) h.valid).localPorts
  have htracks := h.insertTuples hrest
  have hincoming := hrest.incoming_eq
  rw [h.available_eq port frame hcursor frame le_rfl] at hanswers
  rw [← QueueMap.cursorOf_insertTuples _ taken] at hcursor
  refine ⟨events', rest, _, Prod.ext ?_ (Prod.ext hincoming rfl), hlocal, ?_⟩
  · show Outcome.get (handler.getButtons coder port frame buttons (events.map some)).status
      (handler.getButtons coder port frame buttons (events.map some)).buttons = _
    generalize (handler.getButtons coder port frame buttons (events.map some)).status = status,
      (handler.getButtons coder port frame buttons (events.map some)).buttons = value,
      (handler.getButtons coder port frame buttons
        (events.map some)).handler.inputQueues = queues' at hanswers ⊢
    unfold expectedOutcome
    generalize avail port frame = expected at hanswers ⊢
    cases hanswers with
    | success _ => rfl
    | failure => rfl
  · show Tracks coder
      (handler.getButtons coder port frame buttons (events.map some)).handler.localPorts
      (handler.getButtons coder port frame buttons (events.map some)).handler.inputQueues
      events' rest avail ∧ ∀ k, QueueMap.cursorOf
      (handler.getButtons coder port frame buttons (events.map some)).handler.inputQueues k = _
    rw [hlocal]
    generalize (handler.getButtons coder port frame buttons (events.map some)).status = status,
      (handler.getButtons coder port frame buttons (events.map some)).buttons = value,
      (handler.getButtons coder port frame buttons
        (events.map some)).handler.inputQueues = queues' at hanswers ⊢
    generalize avail port frame = expected at hanswers ⊢
    cases hanswers with
    | success hready =>
        refine ⟨htracks.advance hready, fun k => ?_⟩
        rw [QueueMap.cursorOf_advance hcursor, QueueMap.cursorOf_insertTuples]
        simp
    | failure =>
        refine ⟨htracks, fun k => ?_⟩
        rw [QueueMap.cursorOf_insertTuples]
        simp

/-- The calls of a list of requests. -/
def requestCalls (buttons : ButtonsType) (requests : List (Port × Int)) :
    List (Call ButtonsType) :=
  requests.map fun request => .getButtons request.1 request.2 buttons

/-- Every request is for a remote port and asks for its next frame. -/
def AsksNext (coder : ButtonCoder ButtonsType) (buttons : ButtonsType) :
    List (Port × Int) → List (Option IncomingEventPB) → EventStreamHandler ButtonsType → Prop
  | [], _, _ => True
  | request :: requests, incoming, handler =>
      (request.1 ∉ handler.localPorts ∧
          QueueMap.cursorOf handler.inputQueues request.1 = some request.2) ∧
        AsksNext coder buttons requests
          (runCall coder (.getButtons request.1 request.2 buttons) incoming handler).2.1
          (runCall coder (.getButtons request.1 request.2 buttons) incoming handler).2.2

/-- A run of requests returns what is tracked. -/
theorem Tracks.runCalls {coder : ButtonCoder ButtonsType} {handler : EventStreamHandler ButtonsType}
    {events : List IncomingEventPB} {tuples : List (ButtonsFrameTuple ButtonsType)}
    {avail : Port → Int → Option ButtonsType}
    (h : Tracks coder handler.localPorts handler.inputQueues events tuples avail)
    (buttons : ButtonsType) {requests : List (Port × Int)}
    (hnext : AsksNext coder buttons requests (events.map some) handler) :
    EventStreamHandler.runCalls coder (requestCalls buttons requests) (events.map some) handler =
      requests.map (expectedOutcome avail buttons) := by
  induction requests generalizing events tuples handler with
  | nil => rfl
  | cons request requests ih =>
      obtain ⟨⟨hremote, hcursor⟩, hrest⟩ := hnext
      obtain ⟨events', tuples', handler', hcall, -, htracks, -⟩ :=
        h.request buttons hremote hcursor
      rw [hcall] at hrest
      rw [requestCalls, List.map_cons, EventStreamHandler.runCalls, hcall, List.map_cons]
      exact congrArg _ (ih htracks hrest)

/-- Two handlers that track the same values and stand at the same frames take the
same requests. -/
theorem Tracks.asksNext {coder : ButtonCoder ButtonsType}
    {handler₁ handler₂ : EventStreamHandler ButtonsType} {events₁ events₂ : List IncomingEventPB}
    {tuples₁ tuples₂ : List (ButtonsFrameTuple ButtonsType)}
    {avail : Port → Int → Option ButtonsType}
    (h₁ : Tracks coder handler₁.localPorts handler₁.inputQueues events₁ tuples₁ avail)
    (h₂ : Tracks coder handler₂.localPorts handler₂.inputQueues events₂ tuples₂ avail)
    (hlocal : handler₂.localPorts = handler₁.localPorts)
    (hcursors : ∀ k, QueueMap.cursorOf handler₂.inputQueues k =
      QueueMap.cursorOf handler₁.inputQueues k)
    (buttons : ButtonsType) {requests : List (Port × Int)}
    (hnext : AsksNext coder buttons requests (events₁.map some) handler₁) :
    AsksNext coder buttons requests (events₂.map some) handler₂ := by
  -- the two runs move the same cursors, since they are answered alike
  induction requests generalizing events₁ events₂ tuples₁ tuples₂ handler₁ handler₂ with
  | nil => exact trivial
  | cons request requests ih =>
      obtain ⟨⟨hremote, hcursor⟩, hrest⟩ := hnext
      have hremote₂ : request.1 ∉ handler₂.localPorts := by
        rw [hlocal]
        exact hremote
      have hcursor₂ := (hcursors request.1).trans hcursor
      obtain ⟨events₁', tuples₁', handler₁', hcall₁, hlocal₁, htracks₁, hcursors₁⟩ :=
        h₁.request buttons hremote hcursor
      obtain ⟨events₂', tuples₂', handler₂', hcall₂, hlocal₂, htracks₂, hcursors₂⟩ :=
        h₂.request buttons hremote₂ hcursor₂
      rw [hcall₁] at hrest
      refine ⟨⟨hremote₂, hcursor₂⟩, ?_⟩
      rw [hcall₂]
      refine ih htracks₁ htracks₂ ?_ (fun k => ?_) hrest
      · rw [hlocal₁, hlocal₂, hlocal]
      · rw [hcursors₁, hcursors₂, hcursors]

/-! ### Any order, any batching -/

omit [Inhabited ButtonsType] in
/-- The same key presses in another order and in other batches are as fresh. -/
theorem FreshPresses.perm {coder : ButtonCoder ButtonsType}
    {handler : EventStreamHandler ButtonsType} {events events' : List IncomingEventPB}
    {tuples : List (ButtonsFrameTuple ButtonsType)} (h : FreshPresses coder handler events tuples)
    (hplain : ∀ event ∈ events', Plain event)
    (hperm : (pressesOf events').Perm (pressesOf events)) :
    ∃ tuples', FreshPresses coder handler events' tuples' ∧ tuples'.Perm tuples := by
  obtain ⟨tuples', hdecodes, hsame⟩ := List.perm_comp_forall₂ hperm h.decodes
  refine ⟨tuples', ⟨hplain, hdecodes, ?_, ?_, ?_⟩, hsame⟩
  · exact fun tuple htuple => h.remote tuple (hsame.mem_iff.mp htuple)
  · exact fun tuple htuple => h.connected tuple (hsame.mem_iff.mp htuple)
  · exact ((hsame.map _).nodup_iff).mpr h.distinct

omit [Inhabited ButtonsType] in
/-- Among tuples with distinct slots the one for a frame is found wherever it
stands. -/
theorem find?_isFor_perm {tuples tuples' : List (ButtonsFrameTuple ButtonsType)}
    (hperm : tuples'.Perm tuples)
    (hdistinct : (tuples.map fun tuple => (tuple.port, tuple.frame)).Nodup)
    (port : Port) (frame : Int) :
    tuples'.find? (fun tuple => IsFor port frame tuple) =
      tuples.find? (fun tuple => IsFor port frame tuple) := by
  cases hfound : tuples.find? (fun tuple => IsFor port frame tuple) with
  | none =>
      rw [List.find?_eq_none] at hfound ⊢
      exact fun tuple htuple => hfound tuple (hperm.mem_iff.mp htuple)
  | some tuple =>
      have hmem := List.mem_of_find?_eq_some hfound
      have hfor : IsFor port frame tuple := by simpa using List.find?_some hfound
      cases hfound' : tuples'.find? (fun tuple => IsFor port frame tuple) with
      | none =>
          rw [List.find?_eq_none] at hfound'
          exact absurd (decide_eq_true hfor) (hfound' tuple (hperm.mem_iff.mpr hmem))
      | some tuple' =>
          have hmem' := hperm.mem_iff.mp (List.mem_of_find?_eq_some hfound')
          have hfor' : IsFor port frame tuple' := by simpa using List.find?_some hfound'
          refine congrArg some (List.inj_on_of_nodup_map hdistinct hmem' hmem ?_)
          rw [hfor.1, hfor.2, hfor'.1, hfor'.2]

theorem FreshPresses.tracks {coder : ButtonCoder ButtonsType}
    {handler : EventStreamHandler ButtonsType} {connectedPorts : List ConnectedPortPB}
    (hplaying : Playing connectedPorts handler) {events : List IncomingEventPB}
    {tuples : List (ButtonsFrameTuple ButtonsType)} (h : FreshPresses coder handler events tuples) :
    Tracks coder handler.localPorts handler.inputQueues events tuples
      (available handler.inputQueues tuples) := by
  have hundelayed : ∀ port ∉ handler.localPorts, Undelayed handler.inputQueues port := by
    intro port hport queue hqueue
    rw [handler.hasDelays port queue hqueue, hplaying.delay_remote hqueue hport]
  refine ⟨hplaying.valid, h.plain, h.decodes, ?_, h.remote, hundelayed, fun _ _ _ _ _ => rfl⟩
  rw [QueueMap.inTurn_iff handler.hasDelays]
  have hslot : ∀ tuple ∈ tuples, QueueMap.slotOf handler.delayFramesForPort tuple =
      (tuple.port, tuple.frame) := by
    intro tuple htuple
    obtain ⟨queue, hqueue, -⟩ := h.connected tuple htuple
    rw [QueueMap.slotOf, ← handler.hasDelays tuple.port queue hqueue,
      hundelayed tuple.port (h.remote tuple htuple) queue hqueue, Int.add_zero]
  refine ⟨fun tuple htuple => ?_, ?_⟩
  · obtain ⟨queue, hqueue, hframe, hinitial, hnew⟩ := h.connected tuple htuple
    have hdelayed : queue.delayedFrame tuple.frame = tuple.frame := by
      rw [InputQueue.delayedFrame, hundelayed tuple.port (h.remote tuple htuple) queue hqueue,
        Int.add_zero]
    refine ⟨queue, hqueue, hframe, ?_, ?_⟩
    · rw [hdelayed]
      exact hinitial
    · rw [hdelayed]
      exact hnew
  · rw [List.map_congr_left hslot]
    exact h.distinct

/-- **Arrival order and batching do not matter.**  Requests for the next frame of
remote ports return, over a stream of fresh key presses, the default inside the
initial delay, what is buffered, or what some key press of the stream carries;
and they fail for any other frame.  So they return the same over every
permutation and re-batching of the same key presses. -/
theorem arrival_order {coder : ButtonCoder ButtonsType} {ports : PortEnum}
    {connectedPorts : List ConnectedPortPB} {handler : EventStreamHandler ButtonsType}
    (hreach : (callSystem coder ports connectedPorts).Reachable handler)
    {events : List IncomingEventPB} {tuples : List (ButtonsFrameTuple ButtonsType)}
    (hfresh : FreshPresses coder handler events tuples) (buttons : ButtonsType)
    {requests : List (Port × Int)}
    (hnext : AsksNext coder buttons requests (events.map some) handler) :
    runCalls coder (requestCalls buttons requests) (events.map some) handler =
        requests.map (expectedOutcome (available handler.inputQueues tuples) buttons) ∧
      ∀ events', (∀ event ∈ events', Plain event) →
        (pressesOf events').Perm (pressesOf events) →
        runCalls coder (requestCalls buttons requests) (events'.map some) handler =
          runCalls coder (requestCalls buttons requests) (events.map some) handler := by
  have hplaying := reachable_playing hreach
  have htracks := hfresh.tracks hplaying
  refine ⟨htracks.runCalls buttons hnext, fun events' hplain hperm => ?_⟩
  obtain ⟨tuples', hfresh', hsame⟩ := hfresh.perm hplain hperm
  have havailable : available handler.inputQueues tuples' =
      available handler.inputQueues tuples := by
    funext port frame
    rw [available, available, find?_isFor_perm hsame hfresh.distinct]
  have htracks' := hfresh'.tracks hplaying
  rw [havailable] at htracks'
  have hnext' := htracks.asksNext htracks' rfl (fun _ => rfl) buttons hnext
  rw [htracks.runCalls buttons hnext, htracks'.runCalls buttons hnext']

/-- Two key presses of the other player, the later frame first. -/
def latePress : KeyStatePB := { consoleId := 1, frameNumber := 3, port := 2, xAxis := 6 }

def earlyPress : KeyStatePB := { consoleId := 1, frameNumber := 2, port := 2, xAxis := 5 }

theorem arrival_order_twoPresses :
    runCalls integerCoder (requestCalls 0 [(2, 0), (2, 1), (2, 2), (2, 3), (2, 4)])
        ([{ keyPress := [earlyPress] }, { keyPress := [latePress] }].map some) (player 1) =
      runCalls integerCoder (requestCalls 0 [(2, 0), (2, 1), (2, 2), (2, 3), (2, 4)])
        ([{ keyPress := [latePress, earlyPress] }].map some) (player 1) := by
  have hreach : (callSystem integerCoder portNumbers twoPorts).Reachable (player 1) :=
    .init (player_startedBy (Or.inl rfl))
  have hplain : ∀ keys, Plain { keyPress := keys } := fun _ => ⟨rfl, rfl, rfl⟩
  have hqueue : (player 1).inputQueues[(2 : Port)]? = some (InputQueue.makeRemoteQueue 2) := by
    decide
  have hfresh : FreshPresses integerCoder (player 1) [{ keyPress := [latePress, earlyPress] }]
      [⟨2, 3, 6⟩, ⟨2, 2, 5⟩] := by
    refine ⟨?_, ?_, by decide, ?_, by decide⟩
    · exact List.forall_mem_singleton.mpr (hplain _)
    · exact .cons ⟨rfl, rfl, rfl⟩ (.cons ⟨rfl, rfl, rfl⟩ .nil)
    · refine List.forall_mem_cons.mpr ⟨?_, List.forall_mem_singleton.mpr ?_⟩
      · exact ⟨_, hqueue, by decide, by decide, by decide⟩
      · exact ⟨_, hqueue, by decide, by decide, by decide⟩
  refine (arrival_order hreach hfresh 0 ?_).2 _ ?_ (.swap _ _ _)
  · simp only [AsksNext]
    decide
  · exact List.forall_mem_cons.mpr ⟨hplain _, List.forall_mem_singleton.mpr (hplain _)⟩

end EventStreamHandler

end Client
end Netplay
