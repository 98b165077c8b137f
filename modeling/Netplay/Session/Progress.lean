import Netplay.Session.Lockstep
import Mathlib.Data.Multiset.MapFold

/-!
# Lockstep progress

Clients in lockstep over a server that forwards every written key press exactly
once to every other client, and nothing else, never fail a call and never
deadlock.

* `Supplied`: whatever is on its way to a client is acceptable to it, and a call
  that waits does so for a frame that is really absent.
* `Flowing`: the owners have put every frame up to where they are, and each frame
  has arrived everywhere or is on its way.
* `lockstep_progress`: the client that has put the fewest frames can always go on.
-/

namespace Netplay
namespace Session
namespace Lockstep

open Client Client.EventStreamHandler

variable {ι ButtonsType : Type*}

/-- Writes succeed, and reads bring key presses only. -/
def Reliable (_ : Lockstep ι ButtonsType) : Action ι ButtonsType → Prop
  | .put _ _ writeOk => writeOk = true
  | .get _ _ _ => True
  | .read _ outcome => ∃ event, outcome = some event ∧ Plain event

instance (s : Lockstep ι ButtonsType) (action : Action ι ButtonsType) :
    Decidable (s.Reliable action) :=
  match action with
  | .put _ _ writeOk => inferInstanceAs (Decidable (writeOk = true))
  | .get _ _ _ => isTrue trivial
  | .read _ none => isFalse nofun
  | .read _ (some event) => decidable_of_iff (Plain event) (by simp [Reliable])

/-! ### The supply of one client -/

/-- What is on its way to a client can be decoded and will be accepted by its
remote queues, each for a slot of its own; and a call waits only for a frame that
is absent. -/
structure Supplied [Inhabited ButtonsType] (coder : ButtonCoder ButtonsType)
    (handler : EventStreamHandler ButtonsType) (waiting : Option (Waiting ButtonsType))
    (inFlight : Multiset KeyStatePB) : Prop where
  decodes : ∀ key ∈ inFlight, ∃ tuple, Decodes coder key tuple
  accepts : ∀ key ∈ inFlight, QueueMap.Accepts handler.inputQueues key.port key.frameNumber
  remote : ∀ key ∈ inFlight, key.port ∉ handler.localPorts
  distinct : (inFlight.map slotOfKey).Nodup
  mustRead : ∀ w ∈ waiting, MustRead handler w.port w.frame

section Supplied

variable [Inhabited ButtonsType] {coder : ButtonCoder ButtonsType}
  {handler handler' : EventStreamHandler ButtonsType} {waiting : Option (Waiting ButtonsType)}
  {inFlight : Multiset KeyStatePB} {connectedPorts : List ConnectedPortPB}

/-- Remote ports apply no delay, so a key press fills the slot it names. -/
theorem Supplied.slotOf_eq (h : Supplied coder handler waiting inFlight)
    (hplaying : Playing connectedPorts handler) {key : KeyStatePB} (hkey : key ∈ inFlight)
    {tuple : ButtonsFrameTuple ButtonsType} (hdecode : Decodes coder key tuple) :
    QueueMap.slotOf handler.delayFramesForPort tuple = slotOfKey key := by
  obtain ⟨queue, hqueue, -⟩ := h.accepts key hkey
  have hdelay := hplaying.delay_remote hqueue (h.remote key hkey)
  unfold QueueMap.slotOf slotOfKey
  rw [← hdecode.port, hdelay, ← hdecode.frame, Int.add_zero]

omit [Inhabited ButtonsType] in
theorem exists_decodes {keys : List KeyStatePB}
    (h : ∀ key ∈ keys, ∃ tuple, Decodes coder key tuple) :
    ∃ tuples, List.Forall₂ (Decodes coder) keys tuples := by
  induction keys with
  | nil => exact ⟨[], .nil⟩
  | cons key keys ih =>
      obtain ⟨tuple, hdecode⟩ := h key List.mem_cons_self
      obtain ⟨tuples, hdecodes⟩ := ih fun key' hkey' => h key' (List.mem_cons_of_mem _ hkey')
      exact ⟨tuple :: tuples, .cons hdecode hdecodes⟩

theorem Supplied.map_slotOf (h : Supplied coder handler waiting inFlight)
    (hplaying : Playing connectedPorts handler) {keys : List KeyStatePB}
    {tuples : List (ButtonsFrameTuple ButtonsType)}
    (hdecodes : List.Forall₂ (Decodes coder) keys tuples) (hkeys : ∀ key ∈ keys, key ∈ inFlight) :
    tuples.map (QueueMap.slotOf handler.delayFramesForPort) = keys.map slotOfKey := by
  induction hdecodes with
  | nil => rfl
  | cons hdecode _ ih =>
      rw [List.map_cons, List.map_cons,
        h.slotOf_eq hplaying (hkeys _ List.mem_cons_self) hdecode,
        ih fun key hkey => hkeys key (List.mem_cons_of_mem _ hkey)]

/-- Every batch of what is on its way is an acceptable event. -/
theorem Supplied.acceptable (h : Supplied coder handler waiting inFlight)
    (hplaying : Playing connectedPorts handler) {event : IncomingEventPB} (hplain : Plain event)
    (hle : (event.keyPress : Multiset KeyStatePB) ≤ inFlight) :
    ∃ tuples, Acceptable coder handler event tuples := by
  have hkeys : ∀ key ∈ event.keyPress, key ∈ inFlight := fun key hkey =>
    Multiset.mem_of_le hle (Multiset.mem_coe.mpr hkey)
  obtain ⟨tuples, hdecodes⟩ := exists_decodes fun key hkey => h.decodes key (hkeys key hkey)
  refine ⟨tuples, hplain, hdecodes, (QueueMap.inTurn_iff handler.hasDelays).mpr ⟨?_, ?_⟩⟩
  · intro tuple htuple
    obtain ⟨key, hkey, hdecode⟩ := forall₂_mem_right hdecodes htuple
    rw [← hdecode.port, ← hdecode.frame]
    exact h.accepts key (hkeys key hkey)
  · rw [h.map_slotOf hplaying hdecodes hkeys]
    have hsub := Multiset.nodup_of_le (Multiset.map_le_map hle) h.distinct
    exact Multiset.coe_nodup.mp hsub

/-- The beginning of a call. -/
theorem Supplied.get (h : Supplied coder handler none inFlight) {w : Waiting ButtonsType}
    {returned : List (Returned ButtonsType)}
    (hstep : Network.CallStep handler [] w handler' waiting returned)
    (hmust : waiting ≠ none → MustRead handler w.port w.frame) :
    Supplied coder handler' waiting inFlight where
  decodes := h.decodes
  accepts := by
    intro key hkey
    obtain ⟨tuple, hdecode⟩ := h.decodes key hkey
    have haccepts := h.accepts key hkey
    rw [hdecode.port, hdecode.frame] at haccepts ⊢
    exact hstep.accepts haccepts (List.forall_mem_nil _)
  remote := by
    rw [hstep.evolves.localPorts]
    exact h.remote
  distinct := h.distinct
  mustRead := by
    cases hstep with
    | waits hevolves hqueues _ =>
        rintro w' ⟨⟩
        obtain ⟨hremote, hawaits⟩ := hmust nofun
        refine ⟨?_, ?_⟩
        · rw [hevolves.localPorts]
          exact hremote
        · rw [hqueues]
          exact hawaits
    | returns _ _ => exact fun w' hw' => absurd hw' (Option.not_mem_none w')

/-- A round that takes a batch of what is on its way. -/
theorem Supplied.read {w : Waiting ButtonsType} (h : Supplied coder handler (some w) inFlight)
    (hplaying : Playing connectedPorts handler) {keys : List KeyStatePB}
    {tuples : List (ButtonsFrameTuple ButtonsType)}
    (hdecodes : List.Forall₂ (Decodes coder) keys tuples)
    (hle : (keys : Multiset KeyStatePB) ≤ inFlight) {returned : List (Returned ButtonsType)}
    (hstep : Network.CallStep handler tuples w handler' waiting returned) :
    Supplied coder handler' waiting (inFlight - keys) := by
  have hrest : ∀ key ∈ inFlight - (keys : Multiset KeyStatePB), key ∈ inFlight :=
    fun key hkey => Multiset.mem_of_le (Multiset.sub_le_self _ _) hkey
  have hkeys : ∀ key ∈ keys, key ∈ inFlight := fun key hkey =>
    Multiset.mem_of_le hle (Multiset.mem_coe.mpr hkey)
  -- what was taken and what is left fill different slots
  have hdisjoint : ∀ key ∈ inFlight - (keys : Multiset KeyStatePB), ∀ key' ∈ keys,
      slotOfKey key' ≠ slotOfKey key := by
    intro key hkey key' hkey' hsame
    have hdistinct := h.distinct
    rw [← Multiset.sub_add_cancel hle, Multiset.map_add, Multiset.nodup_add] at hdistinct
    refine Multiset.disjoint_left.mp hdistinct.2.2 (Multiset.mem_map_of_mem slotOfKey hkey) ?_
    rw [← hsame]
    exact Multiset.mem_map_of_mem slotOfKey (Multiset.mem_coe.mpr hkey')
  refine ⟨fun key hkey => h.decodes key (hrest key hkey), ?_, ?_, ?_, ?_⟩
  · intro key hkey
    obtain ⟨tuple, hdecode⟩ := h.decodes key (hrest key hkey)
    have haccepts := h.accepts key (hrest key hkey)
    rw [hdecode.port, hdecode.frame] at haccepts ⊢
    refine hstep.accepts haccepts fun other hother => ?_
    obtain ⟨key', hkey', hdecode'⟩ := forall₂_mem_right hdecodes hother
    rw [h.slotOf_eq hplaying (hrest key hkey) hdecode,
      h.slotOf_eq hplaying (hkeys key' hkey') hdecode']
    exact hdisjoint key hkey key' hkey'
  · intro key hkey
    rw [hstep.evolves.localPorts]
    exact h.remote key (hrest key hkey)
  · exact Multiset.nodup_of_le (Multiset.map_le_map (Multiset.sub_le_self _ _)) h.distinct
  · cases hstep with
    | waits hevolves hqueues hagain =>
        rintro w' ⟨⟩
        obtain ⟨hremote, hawaits⟩ := h.mustRead w rfl
        refine ⟨?_, ?_⟩
        · rw [hevolves.localPorts]
          exact hremote
        · rw [hqueues]
          refine hawaits.insertTuples handler.hasDelays fun tuple htuple hslot => ?_
          obtain ⟨key, hkey, hdecode⟩ := forall₂_mem_right hdecodes htuple
          rw [h.slotOf_eq hplaying (hkeys key hkey) hdecode] at hslot
          obtain ⟨hport, hframe⟩ := Prod.mk.inj hslot
          exact hagain tuple htuple
            ⟨hdecode.port.symm.trans hport, hdecode.frame.symm.trans hframe⟩
    | returns _ _ => exact fun w' hw' => absurd hw' (Option.not_mem_none w')

/-- The client puts buttons on its own ports. -/
theorem Supplied.putOwn (h : Supplied coder handler none inFlight)
    {taken : List (ButtonsFrameTuple ButtonsType)}
    (htaken : ∀ tuple ∈ taken, tuple.port ∈ handler.localPorts)
    (hevolves : Evolves handler handler')
    (hqueues : handler'.inputQueues = QueueMap.insertTuples handler.inputQueues taken) :
    Supplied coder handler' none inFlight := by
  refine ⟨h.decodes, ?_, ?_, h.distinct, by simp⟩
  · intro key hkey
    obtain ⟨tuple, hdecode⟩ := h.decodes key hkey
    have haccepts := h.accepts key hkey
    have hremote := h.remote key hkey
    rw [hqueues]
    rw [hdecode.port, hdecode.frame] at haccepts ⊢
    refine haccepts.insertTuples handler.hasDelays fun other hother hslot => ?_
    apply hremote
    rw [hdecode.port, ← show other.port = tuple.port from congrArg Prod.fst hslot]
    exact htaken other hother
  · rw [hevolves.localPorts]
    exact h.remote

/-- More key presses are sent to the client. -/
theorem Supplied.add (h : Supplied coder handler waiting inFlight) {keys : List KeyStatePB}
    (hdecodes : ∀ key ∈ keys, ∃ tuple, Decodes coder key tuple)
    (haccepts : ∀ key ∈ keys, QueueMap.Accepts handler.inputQueues key.port key.frameNumber)
    (hremote : ∀ key ∈ keys, key.port ∉ handler.localPorts)
    (hdistinct : (keys.map slotOfKey).Nodup)
    (hnew : ∀ key ∈ keys, ∀ key' ∈ inFlight, slotOfKey key' ≠ slotOfKey key) :
    Supplied coder handler waiting (inFlight + keys) := by
  refine ⟨?_, ?_, ?_, ?_, h.mustRead⟩
  · intro key hkey
    rcases Multiset.mem_add.mp hkey with hkey | hkey
    · exact h.decodes key hkey
    · exact hdecodes key (Multiset.mem_coe.mp hkey)
  · intro key hkey
    rcases Multiset.mem_add.mp hkey with hkey | hkey
    · exact h.accepts key hkey
    · exact haccepts key (Multiset.mem_coe.mp hkey)
  · intro key hkey
    rcases Multiset.mem_add.mp hkey with hkey | hkey
    · exact h.remote key hkey
    · exact hremote key (Multiset.mem_coe.mp hkey)
  · rw [Multiset.map_add, Multiset.nodup_add]
    refine ⟨h.distinct, Multiset.coe_nodup.mpr hdistinct, Multiset.disjoint_left.mpr ?_⟩
    intro slot hslot hslot'
    obtain ⟨key', hkey', rfl⟩ := Multiset.mem_map.mp hslot
    obtain ⟨key, hkey, hsame⟩ := Multiset.mem_map.mp hslot'
    exact hnew key (Multiset.mem_coe.mp hkey) key' hkey' hsame.symm

end Supplied

/-! ### The supply of all clients -/

/-- No call has failed, the owners have put every frame up to where they are, and
each frame that was put has reached every other client or is on its way there. -/
structure Flowing [Inhabited ButtonsType] (game : Game ι) (coder : ButtonCoder ButtonsType)
    (s : Lockstep ι ButtonsType) : Prop where
  running : ∀ client, s.Running client
  supplied : ∀ client,
    Supplied coder (s.net.handler client) (s.net.waiting client) (s.inFlight client)
  put_all : ∀ connectedPort ∈ game.connectedPorts, ∀ frame : Int, 0 ≤ frame →
    frame < s.framesPut (game.owner connectedPort.port) → ∃ buttons,
      ⟨connectedPort.port, frame, buttons⟩ ∈ s.net.accepted (game.owner connectedPort.port)
  delivered : ∀ client, ∀ tuple ∈ s.net.accepted client, ∀ other, other ≠ client →
    QueueMap.SeenAt (s.net.handler other).inputQueues (s.net.slot client tuple) ∨
      ∃ key ∈ s.inFlight other, slotOfKey key = s.net.slot client tuple

/-- What is known of the states of a lockstep run, reliable or not. -/
structure Sound [Inhabited ButtonsType] (game : Game ι) (coder : ButtonCoder ButtonsType)
    (s : Lockstep ι ButtonsType) : Prop where
  inv : Network.Inv game coder s.net
  carried : Carried game s
  paced : Paced game s

section Flowing

variable [Inhabited ButtonsType] {coder : ButtonCoder ButtonsType} {game : Game ι}
  {s : Lockstep ι ButtonsType} {client other : ι}
  {tuples : List (ButtonsFrameTuple ButtonsType)} {writeOk : Bool}

/-- The frame that an owner puts next is new to everybody. -/
theorem Sound.not_seenAt_next (h : Sound game coder s) {connectedPort : ConnectedPortPB}
    (hconnected : connectedPort ∈ game.connectedPorts) (client : ι) :
    ¬ QueueMap.SeenAt (s.net.handler client).inputQueues (connectedPort.port,
      s.framesPut (game.owner connectedPort.port) + connectedPort.delayFrames) := by
  rintro ⟨queue, hqueue, hread | hbuffered⟩
  · have hcursor := QueueMap.cursorOf_of_some hqueue
    have hahead := h.paced.ahead client connectedPort hconnected _ hcursor
    rw [InputQueue.expectedFrame] at hahead
    simp only at hread
    omega
  · obtain ⟨value, hvalue⟩ := Option.isSome_iff_exists.mp
      (Std.ExtTreeMap.mem_iff_isSome_getElem?.mp hbuffered)
    obtain ⟨connectedPort', hconnected', hport', sent, hsent, -⟩ :=
      h.inv.buffered client _ queue hqueue _ value hvalue
    obtain rfl := Network.eq_of_port_eq hconnected hconnected' hport'.symm
    have hlt := h.paced.accepted_lt _ _ hsent
    simp only at hlt
    omega

/-- So every queue of its port accepts it, whether it adds the delay itself or
has had it added. -/
theorem Sound.accepts_next (h : Sound game coder s) {connectedPort : ConnectedPortPB}
    (hconnected : connectedPort ∈ game.connectedPorts) (client : ι) {frame : Int}
    (hnonneg : 0 ≤ frame)
    (hframe : frame + (s.net.handler client).delayFramesForPort connectedPort.port =
      s.framesPut (game.owner connectedPort.port) + connectedPort.delayFrames) :
    QueueMap.Accepts (s.net.handler client).inputQueues connectedPort.port frame := by
  have hnew := h.not_seenAt_next hconnected client
  obtain ⟨queue, hqueue, hinitial, -⟩ :=
    (h.inv.playing client).queue_of_mem connectedPort hconnected
  have hdelayed : queue.delayedFrame frame =
      s.framesPut (game.owner connectedPort.port) + connectedPort.delayFrames := by
    rw [InputQueue.delayedFrame, (s.net.handler client).hasDelays _ queue hqueue, hframe]
  rw [QueueMap.seenAt_iff hqueue, ← hdelayed] at hnew
  refine ⟨queue, hqueue, hnonneg, ?_, hnew⟩
  rw [hdelayed, hinitial]
  omega

/-- The tuples that the loop puts are accepted in turn. -/
theorem Sound.inTurn_put (h : Sound game coder s)
    (henabled : s.enabled (.put client tuples writeOk)) :
    QueueMap.InTurn (s.net.handler client).inputQueues tuples := by
  obtain ⟨-, -, hports, hframes⟩ := henabled
  refine (QueueMap.inTurn_iff (s.net.handler client).hasDelays).mpr ⟨?_, ?_⟩
  · intro tuple htuple
    have hlocal := mem_localPorts_of_perm hports htuple
    obtain ⟨connectedPort, hconnected, hport, howner, hdelay⟩ := h.inv.local_port hlocal
    rw [← hport, hframes tuple htuple]
    refine h.accepts_next hconnected client (by omega) ?_
    rw [hport, howner, hdelay]
  · have hnodup : (tuples.map ButtonsFrameTuple.port).Nodup :=
      hports.nodup_iff.mpr (Std.ExtTreeSet.distinct_toList.imp fun hne hsame =>
        hne (Std.compare_eq_iff_eq.mpr hsame))
    refine List.Nodup.of_map Prod.fst ?_
    rw [List.map_map]
    exact hnodup

/-- What a put of the loop does: every tuple is accepted and transmitted. -/
structure PutsAll (coder : ButtonCoder ButtonsType) (s : Lockstep ι ButtonsType) (client : ι)
    (tuples : List (ButtonsFrameTuple ButtonsType)) : Prop where
  taken : takenTuples coder tuples (s.net.handler client) = tuples
  success : ((s.net.handler client).putButtons coder tuples true).status = .success
  transmits : List.Forall₂ (Transmits coder (s.net.handler client)) tuples
    (s.writtenBy coder client tuples true)

theorem Sound.putsAll (h : Sound game coder s) (hheader : coder.KeepsHeader)
    (htotal : coder.Total) (henabled : s.enabled (.put client tuples writeOk)) :
    PutsAll coder s client tuples := by
  have hturn := h.inTurn_put henabled
  obtain ⟨htaken, hsuccess⟩ := putButtons_of_inTurn htotal hturn fun port hlocal => by
    obtain ⟨connectedPort, hconnected, -, -, hdelay⟩ := h.inv.local_port hlocal
    rw [hdelay]
    exact game.delay_nonneg connectedPort hconnected
  refine ⟨htaken, hsuccess, ?_⟩
  obtain ⟨-, keys, hwritten, hencodes⟩ :=
    (putButtons_spec coder tuples true (s.net.handler client)).written (Or.inl hsuccess)
  have hlocal : (s.net.handler client).localTuples tuples = tuples := by
    refine List.filter_eq_self.mpr fun tuple htuple => ?_
    exact decide_eq_true (mem_localPorts_of_perm henabled.2.2.1 htuple)
  rw [hlocal] at hencodes
  unfold writtenBy
  rw [hwritten, flatMap_keyPressEvents]
  exact hencodes.imp fun _ _ hencode => hencode.transmits hheader

/-- The key presses of a put: one for each tuple, for the next frame of its port. -/
theorem PutsAll.written (hputs : PutsAll coder s client tuples) (h : Sound game coder s)
    (hlossless : coder.Lossless) (henabled : s.enabled (.put client tuples writeOk))
    {key : KeyStatePB} (hkey : key ∈ s.writtenBy coder client tuples true) :
    (∃ connectedPort ∈ game.connectedPorts, connectedPort.port = key.port ∧
        game.owner key.port = client ∧
        key.frameNumber = s.framesPut client + connectedPort.delayFrames) ∧
      ∃ tuple, Decodes coder key tuple := by
  obtain ⟨tuple, htuple, htransmit⟩ := forall₂_mem_right hputs.transmits hkey
  obtain ⟨connectedPort, hconnected, hport, howner, hdelay⟩ :=
    h.inv.local_port (mem_localPorts_of_perm henabled.2.2.1 htuple)
  refine ⟨⟨connectedPort, hconnected, ?_, ?_, ?_⟩,
    ⟨key.port, key.frameNumber, tuple.buttons⟩, rfl, rfl, hlossless htransmit.encoded⟩
  · rw [htransmit.port, hport]
  · rw [htransmit.port, howner]
  · rw [htransmit.frameNumber, hdelay, henabled.2.2.2 tuple htuple]

/-- What a put sends is new and acceptable to every other client. -/
theorem Supplied.put (hsupplied : Supplied coder (s.net.handler other) (s.net.waiting other)
      (s.inFlight other))
    (hputs : PutsAll coder s client tuples) (h : Sound game coder s)
    (hlossless : coder.Lossless) (henabled : s.enabled (.put client tuples writeOk))
    (hother : other ≠ client) :
    Supplied coder (s.net.handler other) (s.net.waiting other)
      (s.inFlight other + s.writtenBy coder client tuples true) := by
  have hremote : ∀ key ∈ s.writtenBy coder client tuples true,
      key.port ∉ (s.net.handler other).localPorts := by
    intro key hkey hlocal
    obtain ⟨⟨-, -, -, howner, -⟩, -⟩ := hputs.written h hlossless henabled hkey
    obtain ⟨-, -, -, howner', -⟩ := h.inv.local_port hlocal
    exact hother (howner'.symm.trans howner)
  refine hsupplied.add (fun key hkey => (hputs.written h hlossless henabled hkey).2) ?_ hremote
    ?_ ?_
  · intro key hkey
    obtain ⟨⟨connectedPort, hconnected, hport, howner, hframe⟩, -⟩ :=
      hputs.written h hlossless henabled hkey
    have hdelay := game.delay_nonneg connectedPort hconnected
    rw [← hport]
    refine h.accepts_next hconnected other (by omega) ?_
    rw [(h.inv.playing other).delayFramesForPort hconnected, hport, if_neg (hremote key hkey),
      howner, hframe, Int.add_zero]
  · rw [map_slotOfKey hputs.transmits]
    exact ((QueueMap.inTurn_iff (s.net.handler client).hasDelays).mp (h.inTurn_put henabled)).2
  · -- what is still on its way is for frames that were put before
    intro key hkey key' hkey' hsame
    obtain ⟨⟨connectedPort, hconnected, hport, howner, hframe⟩, -⟩ :=
      hputs.written h hlossless henabled hkey
    obtain ⟨hsamePort, hsameFrame⟩ := Prod.mk.inj hsame
    have hwritten := (h.carried other key' hkey').2
    rw [hsamePort, howner] at hwritten
    obtain ⟨tuple, htuple, hslot, -⟩ := h.inv.written client key' hwritten
    obtain ⟨hslotPort, hslotFrame⟩ := Prod.mk.inj hslot
    obtain ⟨connectedPort', hconnected', hport', -, hdelay⟩ :=
      h.inv.local_port (h.inv.filled client tuple htuple).1
    obtain rfl := Network.eq_of_port_eq hconnected hconnected'
      (by rw [hport, hport', hslotPort, hsamePort])
    have hlt := h.paced.accepted_lt client tuple htuple
    rw [hdelay] at hslotFrame
    omega

/-! ### The steps -/

variable [DecidableEq ι]

theorem Flowing.put (hflow : Flowing game coder s) (h : Sound game coder s)
    (hheader : coder.KeepsHeader) (hlossless : coder.Lossless) (htotal : coder.Total)
    (henabled : s.enabled (.put client tuples true)) :
    Flowing game coder (next coder game s (.put client tuples true)) := by
  have hputs := h.putsAll hheader htotal henabled
  have hevolves := putButtons_evolves coder tuples true (s.net.handler client)
  have hqueues : ((s.net.handler client).putButtons coder tuples true).handler.inputQueues =
      QueueMap.insertTuples (s.net.handler client).inputQueues tuples := by
    rw [putButtons_inputQueues, hputs.taken]
  have hnet : (next coder game s (.put client tuples true)).net =
      s.net.update client ((s.net.handler client).putButtons coder tuples true).handler
        (s.net.waiting client) tuples (s.writtenBy coder client tuples true) [.put .success] := by
    simp only [next, Network.next, hputs.taken, hputs.success]
    rfl
  obtain ⟨⟨hidle, -⟩, -, hports, hframes⟩ := id henabled
  refine ⟨?_, ?_, ?_, ?_⟩
  · intro receiver call hcall
    rw [hnet] at hcall
    rcases Network.mem_returned_update.mp hcall with hold | ⟨-, hput⟩
    · exact hflow.running receiver call hold
    · cases List.mem_singleton.mp hput
      rfl
  · intro receiver
    by_cases hself : receiver = client
    · subst hself
      simp only [next, Network.next, Network.update, Function.update_self, if_true, hidle]
      have hsupplied := hflow.supplied receiver
      rw [hidle] at hsupplied
      exact hsupplied.putOwn (fun tuple htuple => mem_localPorts_of_perm hports htuple) hevolves
        hqueues
    · simp only [next, Network.next, Network.update, Function.update_of_ne hself, if_neg hself]
      exact (hflow.supplied receiver).put hputs h hlossless henabled hself
  · intro connectedPort hconnected frame hnonneg hframe
    rw [hnet]
    simp only [Network.mem_accepted_update]
    by_cases hnew : game.owner connectedPort.port = client ∧ frame = s.framesPut client
    · -- the frame is put in this very step
      obtain ⟨hself, hlast⟩ := hnew
      have hlocal := (h.inv.local_iff client connectedPort hconnected).mpr hself
      obtain ⟨tuple, htuple, hport⟩ := List.mem_map.mp
        (hports.mem_iff.mpr (Std.ExtTreeSet.mem_toList.mpr hlocal))
      refine ⟨tuple.buttons, Or.inr ⟨hself, ?_⟩⟩
      rw [hlast, ← hframes tuple htuple, ← hport]
      exact htuple
    · have hearlier : frame < s.framesPut (game.owner connectedPort.port) := by
        by_cases hself : game.owner connectedPort.port = client
        · simp only [next, hself, Function.update_self] at hframe
          have hne : frame ≠ s.framesPut client := fun hlast => hnew ⟨hself, hlast⟩
          rw [hself]
          omega
        · simpa only [next, Function.update_of_ne hself] using hframe
      obtain ⟨buttons, hmem⟩ := hflow.put_all connectedPort hconnected frame hnonneg hearlier
      exact ⟨buttons, Or.inl hmem⟩
  · intro sender tuple htuple receiver hne
    rw [hnet] at htuple ⊢
    rw [Network.slot_update hevolves]
    rcases Network.mem_accepted_update.mp htuple with hold | ⟨rfl, hput⟩
    · rcases hflow.delivered sender tuple hold receiver hne with hseen | ⟨key, hkey, hfills⟩
      · exact Or.inl ((Network.evolves_update hevolves receiver).queues.seenAt hseen)
      · refine Or.inr ⟨key, ?_, hfills⟩
        by_cases hself : receiver = client
        · simp only [next, if_pos hself]
          exact hkey
        · simp only [next, if_neg hself]
          exact Multiset.mem_add.mpr (Or.inl hkey)
    · -- a key press for the new tuple is on its way to everybody else
      have hslots := map_slotOfKey hputs.transmits
      obtain ⟨key, hkey, hfills⟩ : ∃ key ∈ s.writtenBy coder sender tuples true,
          slotOfKey key = s.net.slot sender tuple := by
        apply List.mem_map.mp
        rw [hslots]
        exact List.mem_map_of_mem hput
      refine Or.inr ⟨key, ?_, hfills⟩
      simp only [next, if_neg hne]
      exact Multiset.mem_add.mpr (Or.inr (Multiset.mem_coe.mpr hkey))

/-- What `get` and `read` share. -/
theorem Flowing.callStep (hflow : Flowing game coder s) {s' : Lockstep ι ButtonsType}
    {handler : EventStreamHandler ButtonsType} {taken : List (ButtonsFrameTuple ButtonsType)}
    {w : Waiting ButtonsType} {waiting : Option (Waiting ButtonsType)}
    {returned : List (Returned ButtonsType)} {inFlight : Multiset KeyStatePB}
    (hstep : Network.CallStep (s.net.handler client) taken w handler waiting returned)
    (hnet : s'.net = s.net.update client handler waiting [] [] returned)
    (hframesPut : s'.framesPut = s.framesPut)
    (hinFlight : s'.inFlight = Function.update s.inFlight client inFlight)
    (hsuccess : ∀ call ∈ returned, call.IsSuccess)
    (hsupplied : Supplied coder handler waiting inFlight)
    (harrived : ∀ key ∈ s.inFlight client,
      key ∈ inFlight ∨ QueueMap.SeenAt handler.inputQueues (slotOfKey key)) :
    Flowing game coder s' := by
  obtain ⟨net, framesPut, remaining, inFlight'⟩ := s'
  simp only at hnet hframesPut hinFlight
  subst hnet hframesPut hinFlight
  refine ⟨?_, ?_, ?_, ?_⟩
  -- nobody but the caller is affected
  · intro receiver call hcall
    rcases Network.mem_returned_update.mp hcall with hold | ⟨-, hreturn⟩
    · exact hflow.running receiver call hold
    · exact hsuccess call hreturn
  · intro receiver
    by_cases hself : receiver = client
    · subst hself
      simp only [Network.update, Function.update_self]
      exact hsupplied
    · simp only [Network.update, Function.update_of_ne hself]
      exact hflow.supplied receiver
  · intro connectedPort hconnected frame hnonneg hframe
    rw [Network.update_accepted_nil]
    exact hflow.put_all connectedPort hconnected frame hnonneg hframe
  · intro sender tuple htuple receiver hne
    rw [Network.update_accepted_nil] at htuple
    rw [Network.slot_update hstep.evolves]
    rcases hflow.delivered sender tuple htuple receiver hne with hseen | ⟨key, hkey, hfills⟩
    · exact Or.inl ((Network.evolves_update hstep.evolves receiver).queues.seenAt hseen)
    · by_cases hself : receiver = client
      · subst hself
        simp only [Network.update, Function.update_self]
        rw [← hfills]
        rcases harrived key hkey with hstill | hseen
        · exact Or.inr ⟨key, hstill, rfl⟩
        · exact Or.inl hseen
      · simp only [Function.update_of_ne hself]
        exact Or.inr ⟨key, hkey, hfills⟩

omit [DecidableEq ι] in
/-- A call that need not read the stream finds its frame: the owner has put it. -/
theorem Flowing.ready (hflow : Flowing game coder s) (h : Sound game coder s) {port : Port}
    (hport : port ∈ s.remaining client)
    (hmust : ¬ MustRead (s.net.handler client) port (s.framesPut client - 1)) :
    ∃ value, Ready (s.net.handler client).inputQueues port (s.framesPut client - 1) value := by
  have hcursor := (h.paced.pace client).unread port (Or.inl hport)
  rcases ready_or_awaits hcursor with hready | hawaits
  · exact hready
  · have hlocal : port ∈ (s.net.handler client).localPorts := by
      by_contra hremote
      exact hmust ⟨hremote, hawaits⟩
    obtain ⟨connectedPort, hconnected, rfl, howner, hdelay⟩ := h.inv.local_port hlocal
    obtain ⟨queue, hqueue, hinitial, -⟩ :=
      (h.inv.playing client).queue_of_mem connectedPort hconnected
    have hlate := hawaits.initial_le hqueue
    have hnonneg := game.delay_nonneg connectedPort hconnected
    rw [hinitial] at hlate
    obtain ⟨buttons, hmem⟩ := hflow.put_all connectedPort hconnected
      (s.framesPut client - 1 - connectedPort.delayFrames) (by omega) (by
        rw [howner]
        omega)
    rw [howner] at hmem
    have hseen := (h.inv.filled client _ hmem).2
    unfold Network.slot QueueMap.slotOf at hseen
    rw [hdelay, Int.sub_add_cancel] at hseen
    exact absurd hseen hawaits.not_seenAt

theorem Flowing.get (hflow : Flowing game coder s) (h : Sound game coder s) {port : Port}
    (buttons : ButtonsType) (henabled : s.enabled (.get client port buttons)) :
    Flowing game coder (next coder game s (.get client port buttons)) := by
  obtain ⟨⟨hidle, -⟩, hport⟩ := henabled
  obtain ⟨handler, waiting, returned, hnext, hstep, hmust, hready⟩ := Network.next_get coder
    (h.inv.playing client).valid port (s.framesPut client - 1) buttons
  have hsupplied := hflow.supplied client
  rw [hidle] at hsupplied
  refine hflow.callStep hstep hnext rfl (Function.update_eq_self client s.inFlight).symm ?_
    (hsupplied.get hstep hmust.mp) fun key hkey => Or.inl hkey
  by_cases hmustRead : MustRead (s.net.handler client) port (s.framesPut client - 1)
  · have hwaits := hmust.mpr hmustRead
    cases hstep with
    | waits _ _ _ => exact List.forall_mem_nil _
    | returns _ _ => exact absurd rfl hwaits
  · obtain ⟨value, hvalue⟩ := hflow.ready h hport hmustRead
    exact hready value hvalue

theorem Flowing.read (hflow : Flowing game coder s) (h : Sound game coder s)
    {event : IncomingEventPB} (hplain : Plain event)
    (henabled : s.enabled (.read client (some event))) :
    Flowing game coder (next coder game s (.read client (some event))) := by
  obtain ⟨hsome, hle⟩ := henabled
  obtain ⟨w, hwaiting⟩ := Option.ne_none_iff_exists'.mp hsome
  have hle : (event.keyPress : Multiset KeyStatePB) ≤ s.inFlight client := hle
  have hplaying := h.inv.playing client
  have hsupplied := hflow.supplied client
  rw [hwaiting] at hsupplied
  obtain ⟨tuples, hacceptable⟩ := hsupplied.acceptable hplaying hplain hle
  obtain ⟨handler, waiting, returned, hnext, hstep, hreads⟩ :=
    Network.next_read coder hwaiting hplaying.valid (some event)
  rw [(readEvent_of_inTurn w.port w.frame hacceptable).1] at hstep
  have hkeys : ∀ key ∈ event.keyPress, key ∈ s.inFlight client := fun key hkey =>
    Multiset.mem_of_le hle (Multiset.mem_coe.mpr hkey)
  -- every key press of the event has filled its slot
  have hfilled : ∀ key ∈ event.keyPress, QueueMap.SeenAt
      (QueueMap.insertTuples (s.net.handler client).inputQueues tuples) (slotOfKey key) := by
    intro key hkey
    have hslots := hsupplied.map_slotOf hplaying hacceptable.decodes hkeys
    have hmem : slotOfKey key ∈ tuples.map
        (QueueMap.slotOf (s.net.handler client).delayFramesForPort) := by
      rw [hslots]
      exact List.mem_map_of_mem hkey
    obtain ⟨tuple, htuple, hslot⟩ := List.mem_map.mp hmem
    rw [← hslot]
    exact (hacceptable.inTurn.slots (s.net.handler client).hasDelays).2.2 tuple htuple
  refine hflow.callStep hstep hnext rfl rfl ?_
    (hsupplied.read hplaying hacceptable.decodes hle hstep) ?_
  · refine hreads event tuples rfl hacceptable fun ⟨tuple, htuple, hport, hframe⟩ => ?_
    obtain ⟨key, hkey, hdecode⟩ := forall₂_mem_right hacceptable.decodes htuple
    have hseen := hfilled key hkey
    rw [slotOfKey, hdecode.port, hdecode.frame, hport, hframe] at hseen
    have hpace := h.paced.pace client
    rw [hwaiting] at hpace
    have hcursor := hpace.unread w.port (Or.inr ⟨w, rfl, rfl⟩)
    rw [← hpace.waiting_frame w rfl, ← QueueMap.cursorOf_insertTuples _ tuples] at hcursor
    rcases ready_or_awaits hcursor with hready | hawaits
    · exact hready
    · exact absurd hseen hawaits.not_seenAt
  · intro key hkey
    rw [← Multiset.sub_add_cancel hle] at hkey
    rcases Multiset.mem_add.mp hkey with hkey | hkey
    · exact Or.inl hkey
    · exact Or.inr (hstep.seenAt (hfilled key (Multiset.mem_coe.mp hkey)))

/-! ### Every run -/

theorem reachable_sound (hheader : coder.KeepsHeader) (hreach : (system coder game).Reachable s) :
    Sound game coder s := by
  obtain ⟨hnetwork, hcarried⟩ := reachable_network hheader hreach
  exact ⟨Network.reachable_inv hheader hnetwork, hcarried, reachable_paced hheader hreach⟩

omit [DecidableEq ι] in
theorem Flowing.init (hstart : Starts game s) : Flowing game coder s := by
  obtain ⟨⟨-, -, hempty⟩, hcounters⟩ := hstart
  refine ⟨?_, ?_, ?_, ?_⟩
  · intro client call hcall
    rw [(hempty client).2.2.2] at hcall
    cases hcall
  · intro client
    rw [(hempty client).1, (hcounters client).2.2]
    exact ⟨by simp, by simp, by simp, by simp, by simp⟩
  · intro connectedPort hconnected frame hnonneg hframe
    rw [(hcounters _).1] at hframe
    omega
  · intro client tuple htuple
    rw [(hempty client).2.1] at htuple
    cases htuple

theorem reachable_flowing (hheader : coder.KeepsHeader) (hlossless : coder.Lossless)
    (htotal : coder.Total) (hreach : ((system coder game).restrict Reliable).Reachable s) :
    Flowing game coder s := by
  refine hreach.invariant_of (J := Sound game coder)
    (fun s hs => reachable_sound hheader hs.of_restrict)
    (fun s hinit => Flowing.init (s := s) hinit) ?_
  rintro s action h hflow ⟨henabled, hreliable⟩
  cases action with
  | put client tuples writeOk =>
      cases hreliable
      exact hflow.put h hheader hlossless htotal henabled
  | get client port buttons => exact hflow.get h buttons henabled
  | read client outcome =>
      obtain ⟨event, rfl, hplain⟩ := hreliable
      exact hflow.read h hplain henabled

omit [DecidableEq ι] in
/-- A client that nobody is behind is not blocked: the frame it waits for has been
put by its owner, so it has arrived or is on its way. -/
theorem Flowing.not_blocked (hflow : Flowing game coder s) (h : Sound game coder s)
    (hslowest : ∀ owner, s.framesPut client ≤ s.framesPut owner)
    (hempty : s.inFlight client = 0) : s.net.waiting client = none := by
  by_contra hsome
  obtain ⟨w, hwaiting⟩ := Option.ne_none_iff_exists'.mp hsome
  obtain ⟨hremote, hawaits⟩ := (hflow.supplied client).mustRead w hwaiting
  have hframe := (h.paced.pace client).waiting_frame w hwaiting
  have hplaying := h.inv.playing client
  obtain ⟨queue, hqueue, -⟩ := id hawaits
  obtain ⟨connectedPort, hconnected, hport⟩ := hplaying.exists_connected hqueue
  obtain ⟨queue', hqueue', hinitial, -⟩ := hplaying.queue_of_mem connectedPort hconnected
  rw [hport] at hqueue'
  have hlate := hawaits.initial_le hqueue'
  rw [hinitial] at hlate
  have hdelay := game.delay_nonneg connectedPort hconnected
  have hbehind := hslowest (game.owner connectedPort.port)
  obtain ⟨buttons, hmem⟩ := hflow.put_all connectedPort hconnected
    (w.frame - connectedPort.delayFrames) (by omega) (by omega)
  have howner : client ≠ game.owner connectedPort.port := by
    intro hown
    apply hremote
    rw [← hport]
    exact (h.inv.local_iff client connectedPort hconnected).mpr hown.symm
  have hslot : s.net.slot (game.owner connectedPort.port)
      ⟨connectedPort.port, w.frame - connectedPort.delayFrames, buttons⟩ = (w.port, w.frame) := by
    obtain ⟨connectedPort', hconnected', hport', -, hdelay'⟩ :=
      h.inv.local_port (h.inv.filled _ _ hmem).1
    obtain rfl := Network.eq_of_port_eq hconnected hconnected' hport'.symm
    unfold Network.slot QueueMap.slotOf
    rw [hdelay', Int.sub_add_cancel, hport]
  rcases hflow.delivered _ _ hmem client howner with hseen | ⟨key, hkey, -⟩
  · rw [hslot] at hseen
    exact hawaits.not_seenAt hseen
  · rw [hempty] at hkey
    exact absurd hkey (Multiset.notMem_zero key)

/-- **Lockstep progress.**  Over a reliable server no call of the loops ever
fails, and never are all clients blocked with nothing on its way to any of them. -/
theorem lockstep_progress [Nonempty ι] (hheader : coder.KeepsHeader) (hlossless : coder.Lossless)
    (htotal : coder.Total) (hreach : ((system coder game).restrict Reliable).Reachable s) :
    (∀ client, ∀ call ∈ s.net.returned client, call.IsSuccess) ∧
      ¬ ∀ client, s.net.waiting client ≠ none ∧ s.inFlight client = 0 := by
  have hflow := reachable_flowing hheader hlossless htotal hreach
  have h := reachable_sound hheader hreach.of_restrict
  refine ⟨hflow.running, fun hblocked => ?_⟩
  have hslowest : ∀ owner, s.framesPut (Function.argmin s.framesPut) ≤ s.framesPut owner :=
    fun owner => Function.argmin_le s.framesPut owner
  obtain ⟨hwaiting, hempty⟩ := hblocked (Function.argmin s.framesPut)
  exact hwaiting (hflow.not_blocked h hslowest hempty)

end Flowing

/-- Player 2 begins its loop after player 1 has run ahead, and player 1 gets the
frame that it is waiting for. -/
def catchUp : List (Action Network.Player Int) :=
  runAhead ++ [.put .two [⟨2, 0, 5⟩] true,
    .read .one (some { keyPress := [{ consoleId := 1, frameNumber := 2, port := 2, xAxis := 5 }] })]

theorem lockstep_progress_catchUp :
    .get 2 2 .success 5 ∈
        (catchUp.foldl (next integerCoder Network.twoPlayers) twoStarted).net.returned .one ∧
      ∀ client, ∀ call ∈
        (catchUp.foldl (next integerCoder Network.twoPlayers) twoStarted).net.returned client,
          call.IsSuccess := by
  have hschedule : ((system integerCoder Network.twoPlayers).restrict Reliable).Schedule
      twoStarted catchUp := by decide
  have hinit : ((system integerCoder Network.twoPlayers).restrict Reliable).Reachable
      twoStarted := .init twoStarted_starts
  exact ⟨by decide, (lockstep_progress integerCoder_keepsHeader integerCoder_lossless
    integerCoder_total (hinit.foldl hschedule)).1⟩

end Lockstep

end Session
end Netplay
