import Netplay.Client.RemoteReads
import Netplay.Foundations.MachineInt

/-!
# Frame arithmetic in an `int`

The source adds frames and delays as `int`s.  The definitions named `...Sums` list
the sums that a function computes, in its own order and along its own branches; the
models of the functions themselves add without bounds.

* `intCalls` has the handlers that calls with `int` frames lead to.
* `Offered` says which key presses the loop of `ReadUntilButtons` comes to, and
  `PassedOver` which tuples the loop of `PutButtons` goes past.
* `sums_isInt_iff`: in every run from the start, the sums of a call fit an `int`
  exactly if no frame is put that is too large for the delay of its local port and
  the largest frame has not been handed out.
-/

namespace Netplay
namespace Client

namespace InputQueue

variable {ButtonsType : Type*}

/-- The sum of `InputQueue::PutButtons`. -/
def putSums (queue : InputQueue ButtonsType) (frame : Int) : List Int :=
  if frame < 0 then [] else [queue.delayedFrame frame]

/-- The sum of `InputQueue::GetButtons`. -/
def getSums (queue : InputQueue ButtonsType) : List Int := [queue.expectedFrame]

end InputQueue

namespace EventStreamHandler

variable {ButtonsType : Type*}

/-! ### The sums of `PutButtons` -/

/-- The sums of the loop body: that of the queue, and that of the frame number to
be sent. -/
def putTupleSums (tuple : ButtonsFrameTuple ButtonsType)
    (handler : EventStreamHandler ButtonsType) : List Int :=
  match handler.getQueue tuple.port with
  | none => []
  | some queue =>
      let put := queue.putButtons tuple.frame tuple.buttons
      let handler := handler.setQueue tuple.port put.2
      let sent :=
        if put.1 = false then []
        else if tuple.port ∈ handler.localPorts then
          let delay := handler.delayFramesForPort tuple.port
          if delay < 0 then [] else [tuple.frame + delay]
        else []
      queue.putSums tuple.frame ++ sent

/-- The sums of the loop of `PutButtons`. -/
def putTuplesSums (coder : ButtonCoder ButtonsType) :
    List (ButtonsFrameTuple ButtonsType) → EventStreamHandler ButtonsType → List Int
  | [], _ => []
  | tuple :: tuples, handler =>
      putTupleSums tuple handler ++
        match putTuple coder tuple {} handler with
        | (.success, _, handler) => putTuplesSums coder tuples handler
        | _ => []

/-! ### The sums of `GetButtons` -/

/-- The sum of the body of the key press loop. -/
def putKeyPressSums (coder : ButtonCoder ButtonsType) (keys : KeyStatePB)
    (handler : EventStreamHandler ButtonsType) : List Int :=
  match handler.getQueue keys.port with
  | none => []
  | some queue =>
      match coder.decodeButtons keys with
      | none => []
      | some _ => queue.putSums keys.frameNumber

/-- The sums of the key press loop. -/
def putKeyPressesSums (coder : ButtonCoder ButtonsType) :
    List KeyStatePB → EventStreamHandler ButtonsType → List Int
  | [], _ => []
  | keys :: rest, handler =>
      putKeyPressSums coder keys handler ++
        match putKeyPress coder keys handler with
        | (some _, _) => []
        | (none, handler) => putKeyPressesSums coder rest handler

/-- The sums of `ReadUntilButtons`; a round puts the key presses it looks at. -/
def readUntilButtonsSums (coder : ButtonCoder ButtonsType) (port : Port) (frame : Int) :
    List (Option IncomingEventPB) → EventStreamHandler ButtonsType → List Int
  | [], _ => []
  | read :: incoming, handler =>
      putKeyPressesSums coder (keyPresses read) handler ++
        match readEvent coder port frame read handler with
        | (some _, _) => []
        | (none, handler) => readUntilButtonsSums coder port frame incoming handler

/-! ### Which sums fit -/

/-- A frame that is put for the port is delayed without overflow. -/
def FitsAt (handler : EventStreamHandler ButtonsType) (port : Port) (frame : Int) : Prop :=
  port ∈ handler.inputQueues → 0 ≤ frame → IsInt (frame + handler.delayFramesForPort port)

theorem fitsAt_of_evolves {handler handler' : EventStreamHandler ButtonsType}
    (h : QueueMap.Evolves handler.inputQueues handler'.inputQueues) (port : Port) (frame : Int) :
    FitsAt handler' port frame ↔ FitsAt handler port frame := by
  have hconnected : port ∈ handler'.inputQueues ↔ port ∈ handler.inputQueues := by
    rw [Std.ExtTreeMap.mem_iff_isSome_getElem?, Std.ExtTreeMap.mem_iff_isSome_getElem?,
      Option.isSome_iff_ne_none, Option.isSome_iff_ne_none]
    exact (h.none_iff port).not
  unfold FitsAt
  rw [hconnected, delayFramesForPort_of_evolves h port]

/-- The queue and the message of a tuple add the same numbers. -/
theorem putTupleSums_isInt_iff (tuple : ButtonsFrameTuple ButtonsType)
    (handler : EventStreamHandler ButtonsType) :
    (∀ sum ∈ putTupleSums tuple handler, IsInt sum) ↔
      FitsAt handler tuple.port tuple.frame := by
  unfold putTupleSums FitsAt getQueue
  rw [Std.ExtTreeMap.mem_iff_isSome_getElem?]
  cases hqueue : handler.inputQueues[tuple.port]? with
  | none => simp
  | some queue =>
      have hdelay : handler.delayFramesForPort tuple.port = queue.delayFrames := by
        simp [delayFramesForPort, hqueue]
      have hdelay' : (handler.setQueue tuple.port
          (queue.putButtons tuple.frame tuple.buttons).2).delayFramesForPort tuple.port =
            queue.delayFrames := by
        rw [InputQueue.putButtons_eq]
        split_ifs
        · simp [delayFramesForPort, setQueue]
        · simp [delayFramesForPort, setQueue]
      simp only [hdelay', hdelay, InputQueue.putSums, InputQueue.delayedFrame]
      by_cases hneg : tuple.frame < 0
      -- a negative frame is refused before anything is added
      · have hrefused : (queue.putButtons tuple.frame tuple.buttons).1 = false := by
          rw [InputQueue.putButtons_of_not_accepts fun h => absurd h.1 (by omega)]
        simp [hneg, hrefused]
      · have hframe : 0 ≤ tuple.frame := by omega
        simp only [if_neg hneg, hframe, Option.isSome_some, true_imp_iff]
        constructor
        · intro h
          exact h _ (List.mem_append_left _ List.mem_cons_self)
        · intro h sum hsum
          rcases List.mem_append.mp hsum with hsum | hsum
          · rw [List.mem_singleton.mp hsum]
            exact h
          · split_ifs at hsum
            · cases hsum
            · cases hsum
            · rw [List.mem_singleton.mp hsum]
              exact h
            · cases hsum

theorem putKeyPressSums_isInt_iff (coder : ButtonCoder ButtonsType) (keys : KeyStatePB)
    (handler : EventStreamHandler ButtonsType) :
    (∀ sum ∈ putKeyPressSums coder keys handler, IsInt sum) ↔
      ((coder.decodeButtons keys).isSome → FitsAt handler keys.port keys.frameNumber) := by
  unfold putKeyPressSums FitsAt getQueue delayFramesForPort
  rw [Std.ExtTreeMap.mem_iff_isSome_getElem?]
  cases hqueue : handler.inputQueues[keys.port]? with
  | none => simp
  | some queue =>
      cases hdecode : coder.decodeButtons keys with
      | none => simp
      | some buttons =>
          simp only [InputQueue.putSums, InputQueue.delayedFrame, Option.isSome_some,
            true_imp_iff]
          by_cases hneg : keys.frameNumber < 0
          · simp [hneg]
          · simp [hneg, show 0 ≤ keys.frameNumber by omega]

/-! ### Which tuples and key presses are put -/

/-- An element of a list and what is before it: the first with nothing before it, or a
later one with the first before it. -/
theorem forall_split_cons_iff {α : Type*} {P : List α → α → Prop} {first : α} {rest : List α} :
    (∀ before x after, first :: rest = before ++ x :: after → P before x) ↔
      P [] first ∧ ∀ before x after, rest = before ++ x :: after → P (first :: before) x := by
  constructor
  · intro h
    refine ⟨h [] first rest rfl, fun before x after hsplit => ?_⟩
    exact h (first :: before) x after (by rw [hsplit, List.cons_append])
  · rintro ⟨hfirst, hrest⟩ before x after hsplit
    cases before with
    | nil =>
        cases hsplit
        exact hfirst
    | cons _ before =>
        cases hsplit
        exact hrest before x after rfl

/-- The loop of `PutButtons` goes past these tuples: the queues accept them in turn,
and the local ones can be sent. -/
def PassedOver (coder : ButtonCoder ButtonsType) (handler : EventStreamHandler ButtonsType)
    (tuples : List (ButtonsFrameTuple ButtonsType)) : Prop :=
  QueueMap.InTurn handler.inputQueues tuples ∧
    ∀ tuple ∈ tuples, tuple.port ∈ handler.localPorts → ∃ key, Encodes coder handler tuple key

theorem passedOver_cons {coder : ButtonCoder ButtonsType}
    {handler : EventStreamHandler ButtonsType} {tuple : ButtonsFrameTuple ButtonsType}
    {tuples : List (ButtonsFrameTuple ButtonsType)} :
    PassedOver coder handler (tuple :: tuples) ↔
      (QueueMap.Accepts handler.inputQueues tuple.port tuple.frame ∧
        (tuple.port ∈ handler.localPorts → ∃ key, Encodes coder handler tuple key)) ∧
        PassedOver coder (handler.insertTuple tuple) tuples := by
  have hencodes : ∀ (other : ButtonsFrameTuple ButtonsType) (key : KeyStatePB),
      Encodes coder (handler.insertTuple tuple) other key ↔ Encodes coder handler other key := by
    intro other key
    unfold Encodes
    rw [delayFramesForPort_insertTuple, keyHeader_insertTuple]
  unfold PassedOver
  simp only [hencodes, List.forall_mem_cons]
  exact and_and_and_comm

/-- The sums of a call of `PutButtons` fit if the frames fit that the loop comes to. -/
theorem putTuplesSums_isInt_iff (coder : ButtonCoder ButtonsType)
    (tuples : List (ButtonsFrameTuple ButtonsType)) (handler : EventStreamHandler ButtonsType) :
    (∀ sum ∈ putTuplesSums coder tuples handler, IsInt sum) ↔
      ∀ before tuple after, tuples = before ++ tuple :: after →
        PassedOver coder handler before → FitsAt handler tuple.port tuple.frame := by
  induction tuples generalizing handler with
  | nil => simp [putTuplesSums]
  | cons tuple tuples ih =>
      have hfits : ∀ (port : Port) (frame : Int),
          FitsAt (handler.insertTuple tuple) port frame ↔ FitsAt handler port frame :=
        fitsAt_of_evolves (QueueMap.evolves_insertTuple _ _)
      -- the first tuple is put in any case, the others behind it if it is passed over
      have hfirst : (PassedOver coder handler [] → FitsAt handler tuple.port tuple.frame) ↔
          FitsAt handler tuple.port tuple.frame := forall_prop_of_true ⟨trivial, by simp⟩
      rw [putTuplesSums, forall_split_cons_iff, hfirst, List.forall_mem_append,
        putTupleSums_isInt_iff]
      refine and_congr_right fun _ => ?_
      have hstep := putTuple_step coder tuple {} handler
      generalize putTuple coder tuple {} handler = result at hstep
      cases hstep with
      | noSuchPort hqueue =>
          simp [passedOver_cons, QueueMap.not_accepts_of_none hqueue]
      | rejected hqueue hrefuses =>
          simp [passedOver_cons, (QueueMap.accepts_iff hqueue).not.mpr hrefuses]
      | internalError _ hlocal hdelay =>
          have hnever : ∀ key, ¬ Encodes coder handler tuple key :=
            fun key hencodes => absurd hencodes.1 (by omega)
          simp [passedOver_cons, hlocal, hnever]
      | failedToEncode _ hlocal hencode =>
          have hnever : ∀ key, ¬ Encodes coder handler tuple key := by
            rintro key ⟨-, hkey⟩
            rw [hencode] at hkey
            cases hkey
          simp [passedOver_cons, hlocal, hnever]
      | remote haccepts hremote =>
          simp only [ih, passedOver_cons, haccepts, hremote, hfits, false_imp_iff, true_and]
      | @sent key haccepts hlocal hencodes =>
          have hsome : ∃ key, Encodes coder handler tuple key := ⟨key, hencodes⟩
          simp only [ih, passedOver_cons, haccepts, hsome, hfits, implies_true, true_and]

/-- The key presses that the loop of `ReadUntilButtons` comes to: those of the first
event behind presses that have been put, and those of later events when all presses
of the first have been put and the one that is waited for is not among them. -/
inductive Offered (coder : ButtonCoder ButtonsType) (port : Port) (frame : Int) :
    List (Option IncomingEventPB) → QueueMap ButtonsType → KeyStatePB → Prop
  | here {event : IncomingEventPB} {incoming : List (Option IncomingEventPB)}
      {queues : QueueMap ButtonsType} {before rest : List KeyStatePB} {keys : KeyStatePB}
      {tuples : List (ButtonsFrameTuple ButtonsType)} (hplain : Plain event)
      (hpress : event.keyPress = before ++ keys :: rest)
      (hdecodes : List.Forall₂ (Decodes coder) before tuples)
      (hturn : QueueMap.InTurn queues tuples) :
      Offered coder port frame (some event :: incoming) queues keys
  | later {event : IncomingEventPB} {incoming : List (Option IncomingEventPB)}
      {queues : QueueMap ButtonsType} {keys : KeyStatePB}
      {tuples : List (ButtonsFrameTuple ButtonsType)} (hplain : Plain event)
      (hdecodes : List.Forall₂ (Decodes coder) event.keyPress tuples)
      (hturn : QueueMap.InTurn queues tuples)
      (hother : ∀ tuple ∈ tuples, ¬ IsFor port frame tuple)
      (hlater : Offered coder port frame incoming (QueueMap.insertTuples queues tuples) keys) :
      Offered coder port frame (some event :: incoming) queues keys

/-- The key press can be put without overflow, if it decodes. -/
def PressFits (coder : ButtonCoder ButtonsType) (handler : EventStreamHandler ButtonsType)
    (keys : KeyStatePB) : Prop :=
  (coder.decodeButtons keys).isSome → FitsAt handler keys.port keys.frameNumber

theorem pressFits_of_evolves {coder : ButtonCoder ButtonsType}
    {handler handler' : EventStreamHandler ButtonsType}
    (h : QueueMap.Evolves handler.inputQueues handler'.inputQueues) (keys : KeyStatePB) :
    PressFits coder handler' keys ↔ PressFits coder handler keys := by
  unfold PressFits
  rw [fitsAt_of_evolves h]

theorem putKeyPressesSums_isInt_iff (coder : ButtonCoder ButtonsType) (presses : List KeyStatePB)
    (handler : EventStreamHandler ButtonsType) :
    (∀ sum ∈ putKeyPressesSums coder presses handler, IsInt sum) ↔
      ∀ before keys rest, presses = before ++ keys :: rest →
        (∃ tuples, List.Forall₂ (Decodes coder) before tuples ∧
          QueueMap.InTurn handler.inputQueues tuples) → PressFits coder handler keys := by
  induction presses generalizing handler with
  | nil => simp [putKeyPressesSums]
  | cons keys presses ih =>
      have hfirst : ((∃ tuples, List.Forall₂ (Decodes coder) [] tuples ∧
          QueueMap.InTurn handler.inputQueues tuples) → PressFits coder handler keys) ↔
          PressFits coder handler keys := forall_prop_of_true ⟨[], .nil, trivial⟩
      rw [putKeyPressesSums, forall_split_cons_iff, hfirst, List.forall_mem_append,
        putKeyPressSums_isInt_iff]
      refine and_congr_right fun _ => ?_
      have hstep := putKeyPress_step coder keys handler
      generalize putKeyPress coder keys handler = result at hstep
      cases hstep with
      | refused hrefused _ =>
          have hnever : ∀ before, ¬ ∃ tuples, List.Forall₂ (Decodes coder) (keys :: before)
              tuples ∧ QueueMap.InTurn handler.inputQueues tuples := by
            rintro before ⟨tuples, hdecodes, hturn⟩
            cases hdecodes with
            | cons hdecode _ =>
                rw [acceptedPress_eq_some_iff.mpr ⟨hdecode, hturn.1⟩] at hrefused
                cases hrefused
          simp [hnever]
      | @accepted tuple haccepted =>
          obtain ⟨hdecode, haccepts⟩ := acceptedPress_eq_some_iff.mp haccepted
          have hlater : ∀ before, (∃ tuples, List.Forall₂ (Decodes coder) (keys :: before)
              tuples ∧ QueueMap.InTurn handler.inputQueues tuples) ↔
              ∃ tuples, List.Forall₂ (Decodes coder) before tuples ∧
                QueueMap.InTurn (handler.insertTuple tuple).inputQueues tuples := by
            intro before
            constructor
            · rintro ⟨tuples, hdecodes, hturn⟩
              cases hdecodes with
              | cons hdecode' hdecodes' =>
                  rw [acceptedPress_eq_some_iff.mpr ⟨hdecode', hturn.1⟩] at haccepted
                  cases haccepted
                  exact ⟨_, hdecodes', hturn.2⟩
            · rintro ⟨tuples, hdecodes, hturn⟩
              exact ⟨tuple :: tuples, .cons hdecode hdecodes, haccepts, hturn⟩
          have hevolves : QueueMap.Evolves handler.inputQueues
              (handler.insertTuple tuple).inputQueues := QueueMap.evolves_insertTuple _ _
          simp only [ih, hlater, pressFits_of_evolves hevolves]

/-- A round asks for another one exactly if its event has acceptable key presses, none
of them the one that is waited for. -/
theorem readEvent_fst_eq_none_iff {coder : ButtonCoder ButtonsType} {port : Port} {frame : Int}
    {read : Option IncomingEventPB} {handler : EventStreamHandler ButtonsType} :
    (readEvent coder port frame read handler).1 = none ↔
      ∃ event tuples, read = some event ∧ Acceptable coder handler event tuples ∧
        ∀ tuple ∈ tuples, ¬ IsFor port frame tuple := by
  constructor
  · intro hagain
    obtain ⟨event, hread, hacceptable⟩ := readEvent_acceptable (Or.inl hagain)
    have hspec := readEvent_spec coder port frame read handler
    exact ⟨event, _, hread, hacceptable, (hspec.again hagain).2⟩
  · rintro ⟨event, tuples, rfl, hacceptable, hother⟩
    obtain ⟨-, hstatus, -⟩ := readEvent_of_inTurn port frame hacceptable
    rw [hstatus, if_neg]
    rintro ⟨tuple, htuple, hfor⟩
    exact hother tuple htuple hfor

/-- The key presses that the loop comes to are those of the first round and, if that
asks for another one, those of the rounds behind it. -/
theorem offered_cons_iff {coder : ButtonCoder ButtonsType} {port : Port} {frame : Int}
    {read : Option IncomingEventPB} {incoming : List (Option IncomingEventPB)}
    {handler : EventStreamHandler ButtonsType} {keys : KeyStatePB} :
    Offered coder port frame (read :: incoming) handler.inputQueues keys ↔
      (∃ before rest, keyPresses read = before ++ keys :: rest ∧
        ∃ tuples, List.Forall₂ (Decodes coder) before tuples ∧
          QueueMap.InTurn handler.inputQueues tuples) ∨
      ((readEvent coder port frame read handler).1 = none ∧
        Offered coder port frame incoming (readEvent coder port frame read handler).2.inputQueues
          keys) := by
  constructor
  · intro h
    cases h with
    | @here event _ _ before rest _ tuples hplain hpress hdecodes hturn =>
        refine Or.inl ⟨before, rest, ?_, tuples, hdecodes, hturn⟩
        rw [hplain.keyPresses_eq, hpress]
    | @later event _ _ _ tuples hplain hdecodes hturn hother hlater =>
        have hacceptable : Acceptable coder handler event tuples := ⟨hplain, hdecodes, hturn⟩
        obtain ⟨-, -, hqueues⟩ := readEvent_of_inTurn port frame hacceptable
        refine Or.inr ⟨readEvent_fst_eq_none_iff.mpr ⟨event, tuples, rfl, hacceptable, hother⟩, ?_⟩
        rw [hqueues]
        exact hlater
  · rintro (⟨before, rest, hsplit, tuples, hdecodes, hturn⟩ | ⟨hagain, hlater⟩)
    · have hmem : keys ∈ keyPresses read := by simp [hsplit]
      obtain ⟨event, rfl, -⟩ := mem_keyPresses hmem
      have hplain := plain_of_mem_keyPresses hmem
      rw [hplain.keyPresses_eq] at hsplit
      exact .here hplain hsplit hdecodes hturn
    · obtain ⟨event, tuples, rfl, hacceptable, hother⟩ := readEvent_fst_eq_none_iff.mp hagain
      obtain ⟨-, -, hqueues⟩ := readEvent_of_inTurn port frame hacceptable
      rw [hqueues] at hlater
      exact .later hacceptable.plain hacceptable.decodes hacceptable.inTurn hother hlater

/-- The sums of reading the stream fit if the key presses fit that the loop comes to. -/
theorem readUntilButtonsSums_isInt_iff (coder : ButtonCoder ButtonsType) (port : Port)
    (frame : Int) (incoming : List (Option IncomingEventPB))
    (handler : EventStreamHandler ButtonsType) :
    (∀ sum ∈ readUntilButtonsSums coder port frame incoming handler, IsInt sum) ↔
      ∀ keys, Offered coder port frame incoming handler.inputQueues keys →
        PressFits coder handler keys := by
  induction incoming generalizing handler with
  | nil =>
      refine ⟨fun _ keys hoffered => ?_, fun _ => by simp [readUntilButtonsSums]⟩
      cases hoffered
  | cons read incoming ih =>
      rw [readUntilButtonsSums, List.forall_mem_append, putKeyPressesSums_isInt_iff]
      simp only [offered_cons_iff, or_imp, forall_and]
      refine and_congr ?_ ?_
      · constructor
        · rintro h keys ⟨before, rest, hsplit, hput⟩
          exact h before keys rest hsplit hput
        · intro h before keys rest hsplit hput
          exact h keys ⟨before, rest, hsplit, hput⟩
      · have hspec := readEvent_spec coder port frame read handler
        have hevolves : QueueMap.Evolves handler.inputQueues
            (readEvent coder port frame read handler).2.inputQueues := by
          rw [hspec.handler_eq]
          exact QueueMap.evolves_insertTuples _ _
        generalize readEvent coder port frame read handler = result at hevolves
        obtain ⟨outcome, handler'⟩ := result
        cases outcome with
        | some status => simp
        | none => simp only [ih, pressFits_of_evolves hevolves, true_and]

/-! ### `int` frames -/

/-- The frames that the call is given are `int`s. -/
def Call.IntFrames : Call ButtonsType → Prop
  | .putButtons tuples _ => ∀ tuple ∈ tuples, IsInt tuple.frame
  | .getButtons _ frame _ => IsInt frame

instance (call : Call ButtonsType) : Decidable call.IntFrames :=
  match call with
  | .putButtons tuples _ => inferInstanceAs (Decidable (∀ tuple ∈ tuples, IsInt tuple.frame))
  | .getButtons _ frame _ => inferInstanceAs (Decidable (IsInt frame))

/-- The frame numbers of incoming key presses are `int`s. -/
def IntPresses (incoming : List (Option IncomingEventPB)) : Prop :=
  ∀ event, some event ∈ incoming → ∀ keys ∈ event.keyPress, IsInt keys.frameNumber

theorem Offered.isInt {coder : ButtonCoder ButtonsType} {port : Port} {frame : Int}
    {incoming : List (Option IncomingEventPB)} {queues : QueueMap ButtonsType}
    {keys : KeyStatePB} (h : Offered coder port frame incoming queues keys)
    (hpresses : IntPresses incoming) : IsInt keys.frameNumber := by
  induction h with
  | @here event _ _ _ _ _ _ _ hpress _ _ =>
      exact hpresses event List.mem_cons_self _ (by simp [hpress])
  | later _ _ _ _ _ ih =>
      exact ih fun event hevent => hpresses event (List.mem_cons_of_mem _ hevent)

/-- The cursors are `int`s. -/
def LatestInt (queues : QueueMap ButtonsType) : Prop :=
  ∀ (port : Port) (queue : InputQueue ButtonsType), queues[port]? = some queue →
    IsInt queue.latestFrameRequested

theorem LatestInt.insertTuples {queues : QueueMap ButtonsType} (h : LatestInt queues)
    (tuples : List (ButtonsFrameTuple ButtonsType)) :
    LatestInt (QueueMap.insertTuples queues tuples) := by
  intro port queue' hqueue'
  have hcursor := QueueMap.cursorOf_insertTuples queues tuples port
  rw [QueueMap.cursorOf_of_some hqueue'] at hcursor
  obtain ⟨queue, hqueue, hsame⟩ := Option.map_eq_some_iff.mp hcursor.symm
  have hlatest : queue'.latestFrameRequested = queue.latestFrameRequested := by
    unfold InputQueue.expectedFrame at hsame
    omega
  rw [hlatest]
  exact h port queue hqueue

/-- The frame is not too large for the delay of a local port. -/
def DelayFits (handler : EventStreamHandler ButtonsType) (port : Port) (frame : Int) : Prop :=
  port ∈ handler.localPorts → frame + handler.delayFramesForPort port ≤ 2147483647

/-- The delays of a handler as its frame arithmetic needs them. -/
structure IntDelays (handler : EventStreamHandler ButtonsType) : Prop where
  isInt : ∀ port, IsInt (handler.delayFramesForPort port)
  remote : ∀ port ∈ handler.inputQueues, port ∉ handler.localPorts →
    handler.delayFramesForPort port = 0
  local_connected : ∀ port ∈ handler.localPorts, port ∈ handler.inputQueues

/-- Only a positive delay can make a sum overflow, and only upwards. -/
theorem IntDelays.fitsAt_iff {handler : EventStreamHandler ButtonsType}
    (h : IntDelays handler) (port : Port) {frame : Int} (hframe : IsInt frame) :
    FitsAt handler port frame ↔ DelayFits handler port frame := by
  have hdelay := h.isInt port
  unfold FitsAt DelayFits
  constructor
  · intro hfits hlocal
    by_cases hneg : frame < 0
    · unfold IsInt at hframe hdelay
      omega
    · exact (hfits (h.local_connected port hlocal) (by omega)).2
  · intro hfits hconnected hnonneg
    by_cases hlocal : port ∈ handler.localPorts
    · exact (IsInt.add_iff hnonneg hdelay).mpr (hfits hlocal)
    · rw [h.remote port hconnected hlocal, add_zero]
      exact hframe

theorem Playing.intDelays {connectedPorts : List ConnectedPortPB}
    {handler : EventStreamHandler ButtonsType} (h : Playing connectedPorts handler)
    (hdelays : ∀ connectedPort ∈ connectedPorts, IsInt connectedPort.delayFrames) :
    IntDelays handler where
  isInt := by
    intro port
    cases hqueue : handler.inputQueues[port]? with
    | none =>
        simp only [EventStreamHandler.delayFramesForPort, hqueue]
        decide
    | some queue =>
        obtain ⟨connectedPort, hconnected, rfl⟩ := h.exists_connected hqueue
        rw [h.delayFramesForPort hconnected]
        split_ifs
        · exact hdelays connectedPort hconnected
        · exact IsInt.zero
  remote := by
    intro port hconnected hremote
    obtain ⟨queue, hqueue⟩ := Option.isSome_iff_exists.mp
      (Std.ExtTreeMap.mem_iff_isSome_getElem?.mp hconnected)
    exact h.delay_remote hqueue hremote
  local_connected := by
    intro port hlocal
    obtain ⟨connectedPort, hconnected, rfl⟩ := List.mem_map.mp (h.local_connected port hlocal)
    obtain ⟨queue, hqueue, -⟩ := h.queue_of_mem connectedPort hconnected
    rw [Std.ExtTreeMap.mem_iff_isSome_getElem?, hqueue]
    rfl

/-! ### The sums of a call -/

variable [Inhabited ButtonsType]

/-- The sums of `GetButtons`: those of the two reads of the queue, and those of
reading the stream between them. -/
def getButtonsSums (coder : ButtonCoder ButtonsType) (port : Port) (frame : Int)
    (incoming : List (Option IncomingEventPB)) (handler : EventStreamHandler ButtonsType) :
    List Int :=
  match handler.getQueue port with
  | none => []
  | some queue =>
      let get := queue.getButtons frame default
      let handler := handler.setQueue port get.queue
      let reading :=
        if port ∈ handler.localPorts then []
        else
          match get.status with
          | .timeout =>
              let r := readUntilButtons coder port frame incoming handler
              readUntilButtonsSums coder port frame incoming handler ++
                if r.1 ≠ .gotButtons then []
                else
                  match r.2.2.getQueue port with
                  | none => []
                  | some queue => queue.getSums
          | _ => []
      queue.getSums ++ reading

/-- The sums of a call. -/
def callSums (coder : ButtonCoder ButtonsType) (call : Call ButtonsType)
    (incoming : List (Option IncomingEventPB)) (handler : EventStreamHandler ButtonsType) :
    List Int :=
  match call with
  | .putButtons tuples _ => putTuplesSums coder tuples handler
  | .getButtons port frame _ => getButtonsSums coder port frame incoming handler

/-- What keeps the sums of a call in range: the local frames that it puts are not too
large for their delay, be they its own or off the stream, and the port that it reads
has not handed out the largest frame. -/
def Fits (coder : ButtonCoder ButtonsType) (call : Call ButtonsType)
    (incoming : List (Option IncomingEventPB)) (handler : EventStreamHandler ButtonsType) : Prop :=
  match call with
  | .putButtons tuples _ =>
      ∀ before tuple after, tuples = before ++ tuple :: after →
        PassedOver coder handler before → DelayFits handler tuple.port tuple.frame
  | .getButtons port frame _ =>
      (∀ queue, handler.inputQueues[port]? = some queue →
        queue.latestFrameRequested < 2147483647) ∧
      (MustRead handler port frame →
        ∀ keys, Offered coder port frame incoming handler.inputQueues keys →
          (coder.decodeButtons keys).isSome → DelayFits handler keys.port keys.frameNumber)

/-- The sums of a call are the next frame of the port, twice if it reads the stream,
and those of reading the stream. -/
theorem getButtonsSums_isInt_iff (coder : ButtonCoder ButtonsType) (port : Port) (frame : Int)
    (incoming : List (Option IncomingEventPB)) {handler : EventStreamHandler ButtonsType}
    (hvalid : QueueMap.Valid handler.inputQueues) :
    (∀ sum ∈ getButtonsSums coder port frame incoming handler, IsInt sum) ↔
      (∀ queue, handler.inputQueues[port]? = some queue → IsInt queue.expectedFrame) ∧
        (MustRead handler port frame →
          ∀ sum ∈ readUntilButtonsSums coder port frame incoming handler, IsInt sum) := by
  unfold getButtonsSums getQueue MustRead
  cases hqueue : handler.inputQueues[port]? with
  | none => simp [Awaits, hqueue]
  | some queue =>
      simp only [Option.some.injEq, forall_eq', List.forall_mem_append, InputQueue.getSums,
        List.forall_mem_singleton, awaits_iff hqueue]
      refine and_congr_right fun hexpected => ?_
      by_cases hlocal : port ∈ handler.localPorts
      · have hlocal' : port ∈ (handler.setQueue port
            (queue.getButtons frame default).queue).localPorts := hlocal
        simp [hlocal, hlocal']
      have hlocal' : port ∉ (handler.setQueue port
          (queue.getButtons frame default).queue).localPorts := hlocal
      rw [if_neg hlocal', (hvalid port queue hqueue).getButtons_eq]
      by_cases hframe : frame = queue.expectedFrame
      · cases hvalue : queue.buttonsAt frame with
        | some value =>
            simp [if_pos hframe]
        | none =>
            subst hframe
            simp only [if_true, setQueue_self hqueue, hlocal, not_false_eq_true, true_and,
              true_imp_iff, List.forall_mem_append]
            refine and_iff_left ?_
            -- the second read of the queue finds the cursor where it was
            obtain ⟨-, hhandler⟩ := readUntilButtons_spec coder port queue.expectedFrame incoming
              handler
            split_ifs
            · simp
            · rw [hhandler]
              obtain ⟨queue', hqueue', hsame⟩ :=
                QueueMap.insertTuples_expectedFrame
                  (takenReads coder port queue.expectedFrame incoming handler) hqueue
              simp only [insertTuples, hqueue', List.forall_mem_singleton, hsame]
              exact hexpected
      · simp [hframe]

/-- **The sums of one call.** -/
theorem callSums_isInt_iff (coder : ButtonCoder ButtonsType) {call : Call ButtonsType}
    {incoming : List (Option IncomingEventPB)} {handler : EventStreamHandler ButtonsType}
    (hvalid : QueueMap.Valid handler.inputQueues) (hlatest : LatestInt handler.inputQueues)
    (hdelays : IntDelays handler) (hcall : call.IntFrames) (hpresses : IntPresses incoming) :
    (∀ sum ∈ callSums coder call incoming handler, IsInt sum) ↔
      Fits coder call incoming handler := by
  cases call with
  | putButtons tuples writeOk =>
      refine (putTuplesSums_isInt_iff coder tuples handler).trans ?_
      unfold Fits
      refine forall₃_congr fun before tuple after => forall_congr' fun hsplit => ?_
      have hframe : IsInt tuple.frame := hcall tuple (by simp [hsplit])
      rw [hdelays.fitsAt_iff tuple.port hframe]
  | getButtons port frame buttons =>
      refine (getButtonsSums_isInt_iff coder port frame incoming hvalid).trans ?_
      rw [readUntilButtonsSums_isInt_iff]
      unfold Fits
      refine and_congr ?_ (forall_congr' fun _ => forall₂_congr fun keys hoffered => ?_)
      · refine forall₂_congr fun queue hqueue => ?_
        have hint := hlatest port queue hqueue
        unfold IsInt InputQueue.expectedFrame at *
        omega
      · have hframe : IsInt keys.frameNumber := hoffered.isInt hpresses
        unfold PressFits
        rw [hdelays.fitsAt_iff keys.port hframe]

/-! ### Runs -/

/-- The handlers that calls with `int` frames lead to. -/
def intCalls (coder : ButtonCoder ButtonsType) (handler : EventStreamHandler ButtonsType) :
    TransitionSystem (EventStreamHandler ButtonsType)
      (Call ButtonsType × List (Option IncomingEventPB)) where
  init := fun start => start = handler
  enabled := fun _ action => action.1.IntFrames ∧ IntPresses action.2
  next := fun handler action => (runCall coder action.1 action.2 handler).2.2

theorem intCalls_evolves {coder : ButtonCoder ButtonsType}
    {handler handler' : EventStreamHandler ButtonsType}
    (hvalid : QueueMap.Valid handler.inputQueues)
    (hreach : (intCalls coder handler).Reachable handler') : Evolves handler handler' := by
  refine hreach.invariant (fun start hstart => ?_) (fun s action hevolves _ => ?_)
  · cases hstart
    exact .refl handler
  · exact hevolves.trans (runCall_evolves coder action.1 action.2 (hevolves.valid hvalid))

/-- The frame that a read hands out is the one that was asked for. -/
theorem LatestInt.delivers {queues queues' : QueueMap ButtonsType} (h : LatestInt queues)
    {port : Port} {frame : Int} (hframe : IsInt frame) {buttons value : ButtonsType}
    {status : GetButtonsStatus}
    (hdelivers : Delivers queues port frame buttons status value queues') : LatestInt queues' := by
  cases hdelivers with
  | failed _ => exact h
  | success hready =>
      intro k queue' hqueue'
      rcases QueueMap.advance_some hqueue' with ⟨rfl, queue, hqueue, rfl⟩ | ⟨-, hqueue⟩
      · obtain ⟨rfl, -⟩ := (ready_iff hqueue).mp hready
        exact hframe
      · exact h k queue' hqueue

theorem intCalls_latestInt {coder : ButtonCoder ButtonsType}
    {handler handler' : EventStreamHandler ButtonsType}
    (hvalid : QueueMap.Valid handler.inputQueues) (hlatest : LatestInt handler.inputQueues)
    (hreach : (intCalls coder handler).Reachable handler') : LatestInt handler'.inputQueues := by
  have hvalids : ∀ s, (intCalls coder handler).Reachable s → QueueMap.Valid s.inputQueues :=
    fun s hs => (intCalls_evolves hvalid hs).valid hvalid
  refine @TransitionSystem.Reachable.invariant_of _ _ _ (fun s => LatestInt s.inputQueues) _
    hvalids (fun start hstart => ?_) (fun s action hvalid' hlatest' henabled => ?_) _ hreach
  · cases hstart
    exact hlatest
  · obtain ⟨call, incoming⟩ := action
    cases call with
    | putButtons tuples writeOk =>
        show LatestInt (s.putButtons coder tuples writeOk).handler.inputQueues
        rw [putButtons_inputQueues]
        exact hlatest'.insertTuples _
    | getButtons port frame buttons =>
        have hspec := getButtons_spec coder port frame buttons incoming hvalid'
        exact (hlatest'.insertTuples _).delivers henabled.1 hspec.delivers

/-- The sums of a run. -/
def runSums (coder : ButtonCoder ButtonsType) :
    List (Call ButtonsType × List (Option IncomingEventPB)) → EventStreamHandler ButtonsType →
      List Int
  | [], _ => []
  | action :: actions, handler =>
      callSums coder action.1 action.2 handler ++
        runSums coder actions (runCall coder action.1 action.2 handler).2.2

/-- The runs all of whose calls fit. -/
def fittingCalls (coder : ButtonCoder ButtonsType) (handler : EventStreamHandler ButtonsType) :
    TransitionSystem (EventStreamHandler ButtonsType)
      (Call ButtonsType × List (Option IncomingEventPB)) :=
  (intCalls coder handler).restrict fun handler action => Fits coder action.1 action.2 handler

theorem runSums_isInt_iff_of_reachable {coder : ButtonCoder ButtonsType} {ports : PortEnum}
    {connectedPorts : List ConnectedPortPB} {start handler : EventStreamHandler ButtonsType}
    (hstart : StartedBy ports connectedPorts start)
    (hdelays : ∀ connectedPort ∈ connectedPorts, IsInt connectedPort.delayFrames)
    (hreach : (intCalls coder start).Reachable handler)
    {actions : List (Call ButtonsType × List (Option IncomingEventPB))}
    (hactions : (intCalls coder start).Schedule handler actions) :
    (∀ sum ∈ runSums coder actions handler, IsInt sum) ↔
      (fittingCalls coder start).Schedule handler actions := by
  induction actions generalizing handler with
  | nil => simp [runSums, TransitionSystem.Schedule]
  | cons action actions ih =>
      have hplaying := hstart.started.playing
      have hevolves := intCalls_evolves hplaying.valid hreach
      have hlatest : LatestInt start.inputQueues := by
        intro port queue hqueue
        rw [(hstart.started.fresh hqueue).1]
        decide
      have hlatest' := intCalls_latestInt hplaying.valid hlatest hreach
      have hcall := callSums_isInt_iff coder (hevolves.valid hplaying.valid) hlatest'
        ((hplaying.evolves hevolves).intDelays hdelays) hactions.1.1 hactions.1.2
      have hrest := ih (hreach.step hactions.1) hactions.2
      rw [runSums, List.forall_mem_append, hcall]
      constructor
      · rintro ⟨hfits, hsums⟩
        exact ⟨⟨hactions.1, hfits⟩, hrest.mp hsums⟩
      · rintro ⟨⟨-, hfits⟩, hschedule⟩
        exact ⟨hfits, hrest.mpr hschedule⟩

/-- **Frame arithmetic overflows in no other way.**  Over every run of calls with
`int` frames, all sums fit an `int` exactly if every call of the run meets `Fits`. -/
theorem sums_isInt_iff {ports : PortEnum} {connectedPorts : List ConnectedPortPB}
    {handler : EventStreamHandler ButtonsType} (hstart : StartedBy ports connectedPorts handler)
    (hdelays : ∀ connectedPort ∈ connectedPorts, IsInt connectedPort.delayFrames)
    (coder : ButtonCoder ButtonsType)
    {actions : List (Call ButtonsType × List (Option IncomingEventPB))}
    (hactions : (intCalls coder handler).Schedule handler actions) :
    (∀ sum ∈ runSums coder actions handler, IsInt sum) ↔
      (fittingCalls coder handler).Schedule handler actions :=
  runSums_isInt_iff_of_reachable hstart hdelays (.init rfl) hactions

/-- Player 1 puts a frame and reads the one that its initial delay skips. -/
def putAndRead : List (Call Int × List (Option IncomingEventPB)) :=
  [(.putButtons [⟨1, 0, 7⟩] true, []), (.getButtons 1 0 0, [])]

theorem twoPorts_isInt : ∀ connectedPort ∈ twoPorts, IsInt connectedPort.delayFrames := by decide

theorem sums_isInt_iff_putAndRead :
    (fittingCalls integerCoder (player 1)).Schedule (player 1) putAndRead := by
  have hactions : (intCalls integerCoder (player 1)).Schedule (player 1) putAndRead :=
    ⟨⟨by decide, nofun⟩, ⟨by decide, nofun⟩, trivial⟩
  exact (sums_isInt_iff (player_startedBy (Or.inl rfl)) twoPorts_isInt integerCoder hactions).mp
    (by decide)

/-- Player 1 puts the largest frame. -/
def putLargest : List (Call Int × List (Option IncomingEventPB)) :=
  [(.putButtons [⟨1, 2147483647, 7⟩] true, [])]

/-- A frame that cannot be delayed is not rejected before the sum. -/
theorem sums_overflow :
    ¬ ∀ (ports : PortEnum) (connectedPorts : List ConnectedPortPB)
      (handler : EventStreamHandler Int), StartedBy ports connectedPorts handler →
      (∀ connectedPort ∈ connectedPorts, IsInt connectedPort.delayFrames) →
      ∀ (coder : ButtonCoder Int) (actions : List (Call Int × List (Option IncomingEventPB))),
        (intCalls coder handler).Schedule handler actions →
        ∀ sum ∈ runSums coder actions handler, IsInt sum := by
  intro h
  have hactions : (intCalls integerCoder (player 1)).Schedule (player 1) putLargest :=
    ⟨⟨by decide, nofun⟩, trivial⟩
  have hfits := h portNumbers twoPorts (player 1) (player_startedBy (Or.inl rfl)) twoPorts_isInt
    integerCoder putLargest hactions
  have hoverflow : ¬ ∀ sum ∈ runSums integerCoder putLargest (player 1), IsInt sum := by decide
  exact hoverflow hfits

end EventStreamHandler

end Client
end Netplay
