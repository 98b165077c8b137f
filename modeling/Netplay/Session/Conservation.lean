import Netplay.Session.Delivery
import Netplay.Session.Progress

/-!
# Where a key press is

Over a reliable server the buttons that an owner's queue accepted exist once for every
client: they are on their way to it, in its queue, or have been returned to it.  The three
places are counted separately (`onTheirWay`, `buffered`, `delivered`), and the counts add up
to one (`conservation`).
-/

namespace Netplay
namespace Session
namespace Lockstep

open Client Client.EventStreamHandler Network

variable {ι ButtonsType : Type*}

section Places

variable [DecidableEq ButtonsType]

/-- How many key presses on their way to the client carry the buttons for the frame. -/
def onTheirWay (coder : ButtonCoder ButtonsType) (s : Lockstep ι ButtonsType) (client : ι)
    (port : Port) (frame : Int) (buttons : ButtonsType) : ℕ :=
  (s.inFlight client).countP fun key =>
    slotOfKey key = (port, frame) ∧ coder.decodeButtons key = some buttons

/-- Whether they are in the queue of the port. -/
def buffered (s : Lockstep ι ButtonsType) (client : ι) (port : Port) (frame : Int)
    (buttons : ButtonsType) : ℕ :=
  if ((s.net.handler client).inputQueues[port]?.bind fun queue => queue.frameButtons[frame]?) =
      some buttons then 1 else 0

/-- How often they were returned. -/
def delivered (s : Lockstep ι ButtonsType) (client : ι) (port : Port) (frame : Int)
    (buttons : ButtonsType) : ℕ :=
  (deliveredBy (s.net.returned client) port).count (frame, buttons)

end Places

/-! ### Frames are not negative -/

section Frames

variable [DecidableEq ι] [Inhabited ButtonsType] {coder : ButtonCoder ButtonsType}
  {game : Game ι} {net : Network ι ButtonsType}

/-- The queues accept no negative frame. -/
def FramesNonneg (net : Network ι ButtonsType) : Prop :=
  ∀ client, ∀ tuple ∈ net.accepted client, 0 ≤ tuple.frame

theorem framesNonneg_next (h : FramesNonneg net) (action : Network.Action ι ButtonsType) :
    FramesNonneg (Network.next coder net action) := by
  intro client tuple htuple
  rcases accepted_next coder net action client with hsame | ⟨tuples, writeOk, -, haccepted⟩
  · rw [hsame] at htuple
    exact h client tuple htuple
  · rw [haccepted] at htuple
    rcases List.mem_append.mp htuple with hold | htaken
    · exact h client tuple hold
    · have hturn := (putButtons_spec coder tuples writeOk (net.handler client)).inTurn
      exact (hturn.accepts tuple htaken).frame_nonneg

theorem reachable_framesNonneg (hreach : (Network.system coder game).Reachable net) :
    FramesNonneg net := by
  refine hreach.invariant ?_ fun net action h _ => @framesNonneg_next _ _ _ _ coder net h action
  intro net hinit client tuple htuple
  rw [(hinit.2.2 client).2.1] at htuple
  cases htuple

end Frames

/-! ### The three places -/

/-- What is known of a tuple that its owner accepted: the frame everybody reads it in, and
that nothing else is read there. -/
structure Owned [Inhabited ButtonsType] (game : Game ι) (coder : ButtonCoder ButtonsType)
    (net : Network ι ButtonsType) (owner : ι) (tuple : ButtonsFrameTuple ButtonsType)
    (connectedPort : ConnectedPortPB) : Prop where
  mem : tuple ∈ net.accepted owner
  connected : connectedPort ∈ game.connectedPorts
  port_eq : connectedPort.port = tuple.port
  owner_eq : game.owner tuple.port = owner
  slot_eq : net.slot owner tuple = (tuple.port, tuple.frame + connectedPort.delayFrames)
  value_eq : ∀ value, Accepted game coder net.accepted tuple.port
    (tuple.frame + connectedPort.delayFrames) value → value = tuple.buttons

section Places

variable [Inhabited ButtonsType] {coder : ButtonCoder ButtonsType} {game : Game ι}
  {s : Lockstep ι ButtonsType} {net : Network ι ButtonsType} {owner client : ι}
  {tuple : ButtonsFrameTuple ButtonsType} {connectedPort : ConnectedPortPB}

theorem exists_owned (h : Network.Inv game coder net) (hlossless : coder.Lossless)
    (hmem : tuple ∈ net.accepted owner) :
    ∃ connectedPort, Owned game coder net owner tuple connectedPort := by
  obtain ⟨connectedPort, hconnected, hport, howner, hdelay⟩ :=
    h.local_port (h.filled owner tuple hmem).1
  refine ⟨connectedPort, hmem, hconnected, hport, howner, ?_, ?_⟩
  · rw [slot, QueueMap.slotOf, hdelay]
  · rintro value ⟨connectedPort', hconnected', hport', sent, hsent, harrives⟩
    obtain rfl := Network.eq_of_port_eq hconnected hconnected' (hport.trans hport'.symm)
    rw [howner, Int.add_sub_cancel] at hsent
    have hsame := congrArg ButtonsFrameTuple.buttons (h.accepted_unique hmem hsent rfl rfl)
    exact (hlossless.eq_of_arrives harrives).trans hsame.symm

/-- A key press on its way for the frame carries the buttons. -/
theorem Owned.decodes (h : Owned game coder s.net owner tuple connectedPort)
    (hinv : Network.Inv game coder s.net) (hcarried : Carried game s)
    (hlossless : coder.Lossless) {key : KeyStatePB} (hkey : key ∈ s.inFlight client)
    (hslot : slotOfKey key = (tuple.port, tuple.frame + connectedPort.delayFrames)) :
    coder.decodeButtons key = some tuple.buttons := by
  obtain ⟨hport, -⟩ := Prod.mk.inj hslot
  have hwritten := (hcarried client key hkey).2
  rw [hport, h.owner_eq] at hwritten
  obtain ⟨sent, hsent, hsame, header, hencode⟩ := hinv.written owner key hwritten
  rw [hslot, ← h.slot_eq] at hsame
  obtain rfl := List.inj_on_of_nodup_map (hinv.once owner) hsent h.mem hsame
  exact hlossless hencode

variable [DecidableEq ButtonsType]

theorem Owned.onTheirWay_eq (h : Owned game coder s.net owner tuple connectedPort)
    (hinv : Network.Inv game coder s.net) (hcarried : Carried game s)
    (hlossless : coder.Lossless) (hdistinct : ((s.inFlight client).map slotOfKey).Nodup) :
    s.onTheirWay coder client tuple.port (tuple.frame + connectedPort.delayFrames)
        tuple.buttons =
      if (tuple.port, tuple.frame + connectedPort.delayFrames) ∈
        (s.inFlight client).map slotOfKey then 1 else 0 := by
  have hcount : s.onTheirWay coder client tuple.port (tuple.frame + connectedPort.delayFrames)
      tuple.buttons = ((s.inFlight client).map slotOfKey).count
        (tuple.port, tuple.frame + connectedPort.delayFrames) := by
    rw [onTheirWay, Multiset.count, Multiset.countP_map, Multiset.countP_eq_card_filter]
    refine congrArg Multiset.card (Multiset.filter_congr fun key hkey => ?_)
    exact ⟨fun hboth => hboth.1.symm, fun hslot =>
      ⟨hslot.symm, h.decodes hinv hcarried hlossless hkey hslot.symm⟩⟩
  rw [hcount]
  split_ifs with hmem
  · exact Multiset.count_eq_one_of_mem hdistinct hmem
  · exact Multiset.count_eq_zero_of_notMem hmem

theorem Owned.buffered_eq (h : Owned game coder s.net owner tuple connectedPort)
    (hinv : Network.Inv game coder s.net) {queue : InputQueue ButtonsType}
    (hqueue : (s.net.handler client).inputQueues[tuple.port]? = some queue) :
    s.buffered client tuple.port (tuple.frame + connectedPort.delayFrames) tuple.buttons =
      if tuple.frame + connectedPort.delayFrames ∈ queue.frameButtons then 1 else 0 := by
  rw [buffered, hqueue, Option.bind_some]
  cases hvalue : queue.frameButtons[tuple.frame + connectedPort.delayFrames]? with
  | none => simp [Std.ExtTreeMap.mem_iff_isSome_getElem?, hvalue]
  | some value =>
      have haccepted := hinv.buffered client tuple.port queue hqueue _ value hvalue
      rw [h.value_eq value haccepted]
      simp [Std.ExtTreeMap.mem_iff_isSome_getElem?, hvalue]

theorem Owned.delivered_eq (h : Owned game coder s.net owner tuple connectedPort)
    (hinv : Network.Inv game coder s.net) (hordered : Ordered s.net)
    (hframes : FramesNonneg s.net) {queue : InputQueue ButtonsType}
    (hqueue : (s.net.handler client).inputQueues[tuple.port]? = some queue) :
    s.delivered client tuple.port (tuple.frame + connectedPort.delayFrames) tuple.buttons =
      if tuple.frame + connectedPort.delayFrames ≤ queue.latestFrameRequested then 1 else 0 := by
  have hcursor := (hordered client).cursor tuple.port _ (QueueMap.cursorOf_of_some hqueue)
  have hlisted := (hordered client).frames tuple.port
  have hnonneg := hframes owner tuple h.mem
  have hdelay := game.delay_nonneg connectedPort h.connected
  rw [InputQueue.expectedFrame] at hcursor
  unfold delivered
  split_ifs with hread
  · refine List.count_eq_one_of_mem ((hordered client).nodup tuple.port) ?_
    have hmem : tuple.frame + connectedPort.delayFrames ∈
        (deliveredBy (s.net.returned client) tuple.port).map Prod.fst := by
      rw [hlisted]
      exact List.mem_map.mpr ⟨(tuple.frame + connectedPort.delayFrames).toNat,
        List.mem_range.mpr (by omega), by omega⟩
    obtain ⟨⟨frame, value⟩, hdelivered, hframe⟩ := List.mem_map.mp hmem
    have hframe : frame = tuple.frame + connectedPort.delayFrames := hframe
    subst hframe
    obtain ⟨connectedPort', hconnected', hport', hvalue⟩ :=
      hinv.returned client tuple.port _ value (mem_deliveredBy.mp hdelivered)
    obtain rfl := Network.eq_of_port_eq h.connected hconnected' (h.port_eq.trans hport'.symm)
    rcases hvalue with ⟨hearly, -⟩ | ⟨-, haccepted⟩
    · omega
    · rw [← h.value_eq value haccepted]
      exact hdelivered
  · refine List.count_eq_zero_of_not_mem fun hdelivered => hread ?_
    have hmem := List.mem_map_of_mem (f := Prod.fst) hdelivered
    rw [hlisted] at hmem
    obtain ⟨n, hn, hcast⟩ := List.mem_map.mp hmem
    have hlt := List.mem_range.mp hn
    omega

omit [DecidableEq ButtonsType] in
/-- A key press is on its way to nobody who has its frame already. -/
theorem Flowing.not_seen_of_onTheirWay (hflow : Flowing game coder s)
    (hinv : Network.Inv game coder s.net) {queue : InputQueue ButtonsType}
    (hqueue : (s.net.handler client).inputQueues[tuple.port]? = some queue)
    (hmem : (tuple.port, tuple.frame + connectedPort.delayFrames) ∈
      (s.inFlight client).map slotOfKey) :
    ¬ queue.Seen (tuple.frame + connectedPort.delayFrames) := by
  obtain ⟨key, hkey, hslot⟩ := Multiset.mem_map.mp hmem
  obtain ⟨hport, hframe⟩ := Prod.mk.inj hslot
  obtain ⟨queue', hqueue', haccepts⟩ := (hflow.supplied client).accepts key hkey
  have hremote := (hflow.supplied client).remote key hkey
  have hdelay := (hinv.playing client).delay_remote hqueue' hremote
  rw [hport] at hqueue' hdelay
  rw [hqueue] at hqueue'
  cases hqueue'
  have hnew := haccepts.2.2
  rw [InputQueue.delayedFrame, (s.net.handler client).hasDelays _ queue hqueue, hdelay,
    Int.add_zero, hframe] at hnew
  exact hnew

omit [DecidableEq ButtonsType] in
/-- Whoever it is not on its way to has the frame. -/
theorem Owned.seen_of_not_onTheirWay (h : Owned game coder s.net owner tuple connectedPort)
    (hinv : Network.Inv game coder s.net) (hflow : Flowing game coder s)
    {queue : InputQueue ButtonsType}
    (hqueue : (s.net.handler client).inputQueues[tuple.port]? = some queue)
    (hnot : (tuple.port, tuple.frame + connectedPort.delayFrames) ∉
      (s.inFlight client).map slotOfKey) :
    queue.Seen (tuple.frame + connectedPort.delayFrames) := by
  have hseen : QueueMap.SeenAt (s.net.handler client).inputQueues (s.net.slot owner tuple) := by
    by_cases hself : client = owner
    · subst hself
      exact (hinv.filled client tuple h.mem).2
    · rcases hflow.delivered owner tuple h.mem client hself with hseen | ⟨key, hkey, hslot⟩
      · exact hseen
      · rw [h.slot_eq] at hslot
        exact absurd (hslot ▸ Multiset.mem_map_of_mem slotOfKey hkey) hnot
  rw [h.slot_eq] at hseen
  exact (QueueMap.seenAt_iff hqueue).mp hseen

variable [DecidableEq ι]

/-- **Conservation.**  Over a reliable server every tuple that an owner put is, for every
client, in exactly one of three places: on its way to the client, buffered there, or
returned to it, with the buttons that were put and for the frame they are meant for.
Nothing is lost, and nothing exists twice. -/
theorem conservation (hheader : coder.KeepsHeader) (hlossless : coder.Lossless)
    (htotal : coder.Total) (hreach : ((system coder game).restrict Reliable).Reachable s)
    (owner : ι) {tuple : ButtonsFrameTuple ButtonsType} (hmem : tuple ∈ s.net.accepted owner) :
    ∃ connectedPort ∈ game.connectedPorts, connectedPort.port = tuple.port ∧
      ∀ client,
        s.onTheirWay coder client tuple.port (tuple.frame + connectedPort.delayFrames)
            tuple.buttons +
          s.buffered client tuple.port (tuple.frame + connectedPort.delayFrames) tuple.buttons +
          s.delivered client tuple.port (tuple.frame + connectedPort.delayFrames)
            tuple.buttons = 1 := by
  have hsound := reachable_sound hheader hreach.of_restrict
  have hflow := reachable_flowing hheader hlossless htotal hreach
  have hnetwork := (reachable_network hheader hreach.of_restrict).1
  have hordered := reachable_ordered hheader hnetwork
  have hframes := reachable_framesNonneg hnetwork
  obtain ⟨connectedPort, howned⟩ := exists_owned hsound.inv hlossless hmem
  refine ⟨connectedPort, howned.connected, howned.port_eq, fun client => ?_⟩
  obtain ⟨queue, hqueue, -⟩ :=
    (hsound.inv.playing client).queue_of_mem connectedPort howned.connected
  rw [howned.port_eq] at hqueue
  have hvalid := (hsound.inv.playing client).valid tuple.port queue hqueue
  rw [howned.onTheirWay_eq hsound.inv hsound.carried hlossless (hflow.supplied client).distinct,
    howned.buffered_eq hsound.inv hqueue, howned.delivered_eq hsound.inv hordered hframes hqueue]
  by_cases hway : (tuple.port, tuple.frame + connectedPort.delayFrames) ∈
      (s.inFlight client).map slotOfKey
  · obtain ⟨hread, hbuffered⟩ :=
      not_or.mp (hflow.not_seen_of_onTheirWay hsound.inv hqueue hway)
    rw [if_pos hway, if_neg hbuffered, if_neg hread]
  · rw [if_neg hway]
    rcases howned.seen_of_not_onTheirWay hsound.inv hflow hqueue hway with hread | hbuffered
    · have hempty : tuple.frame + connectedPort.delayFrames ∉ queue.frameButtons := fun hmem =>
        absurd (hvalid.latest_lt _ hmem) (not_lt.mpr hread)
      rw [if_neg hempty, if_pos hread]
    · rw [if_pos hbuffered, if_neg (not_le.mpr (hvalid.latest_lt _ hbuffered))]

end Places

/-- Player 1 has put three frames.  What it pressed for the first is accounted for at both
players. -/
theorem conservation_catchUp :
    ∃ connectedPort ∈ Network.twoPlayers.connectedPorts, connectedPort.port = 1 ∧
      ∀ client,
        (catchUp.foldl (next integerCoder Network.twoPlayers) twoStarted).onTheirWay integerCoder
            client 1 (0 + connectedPort.delayFrames) 7 +
          (catchUp.foldl (next integerCoder Network.twoPlayers) twoStarted).buffered client 1
            (0 + connectedPort.delayFrames) 7 +
          (catchUp.foldl (next integerCoder Network.twoPlayers) twoStarted).delivered client 1
            (0 + connectedPort.delayFrames) 7 = 1 := by
  have hschedule : ((system integerCoder Network.twoPlayers).restrict Reliable).Schedule
      twoStarted catchUp := by decide
  have hinit : ((system integerCoder Network.twoPlayers).restrict Reliable).Reachable
      twoStarted := .init twoStarted_starts
  exact conservation integerCoder_keepsHeader integerCoder_lossless integerCoder_total
    (hinit.foldl hschedule) .one
    (by decide : (⟨1, 0, 7⟩ : ButtonsFrameTuple Int) ∈
      (catchUp.foldl (next integerCoder Network.twoPlayers) twoStarted).net.accepted .one)

end Lockstep
end Session
end Netplay
