import Netplay.Session.Agreement
import Mathlib.Data.Multiset.AddSub

/-!
# Clients in lockstep

The loop that the clients of a game run: put the buttons of one frame on all
local ports, then get the buttons of that frame from every connected port, in
any order, and go on to the next frame.  A client whose call fails leaves the
loop.  The server hands each written key press at most once to each other
client (`inFlight`), in any order and batching.

* `reachable_network`: every run is a run of the clients of the game, so what
  they read is right and they agree.
* `Paced` says how far the cursors of a client are, and that they stay behind
  the owners of the ports.
* `bounded_skew` reads off how far clients can be apart and how much they buffer.
-/

namespace Netplay
namespace Session

open Client Client.EventStreamHandler

/-- The clients, and for each of them: the number of frames it has put, the ports
it still has to read for the last of them, and the key presses on their way to
it. -/
structure Lockstep (ι ButtonsType : Type*) where
  net : Network ι ButtonsType
  framesPut : ι → ℕ
  remaining : ι → List Port
  inFlight : ι → Multiset KeyStatePB

namespace Lockstep

inductive Action (ι ButtonsType : Type*)
  | put (client : ι) (tuples : List (ButtonsFrameTuple ButtonsType)) (writeOk : Bool)
  | get (client : ι) (port : Port) (buttons : ButtonsType)
  | read (client : ι) (outcome : Option IncomingEventPB)

variable {ι ButtonsType : Type*}

/-- No call of the client has failed. -/
def Running (s : Lockstep ι ButtonsType) (client : ι) : Prop :=
  ∀ call ∈ s.net.returned client, call.IsSuccess

/-- The key presses that a read brings. -/
def pressesIn : Option IncomingEventPB → Multiset KeyStatePB
  | none => 0
  | some event => event.keyPress

/-- What the loop does next.  It is between two calls and none has failed; it puts
one tuple on each local port when it has read all ports, and else reads one of
the remaining ports.  A call that waits may be brought any key presses that are
on their way to the client. -/
def enabled (s : Lockstep ι ButtonsType) : Action ι ButtonsType → Prop
  | .put client tuples _ =>
      (s.net.waiting client = none ∧ s.Running client) ∧ s.remaining client = [] ∧
        (tuples.map ButtonsFrameTuple.port).Perm (s.net.handler client).localPorts.toList ∧
        ∀ tuple ∈ tuples, tuple.frame = s.framesPut client
  | .get client port _ =>
      (s.net.waiting client = none ∧ s.Running client) ∧ port ∈ s.remaining client
  | .read client outcome =>
      s.net.waiting client ≠ none ∧ pressesIn outcome ≤ s.inFlight client

instance (s : Lockstep ι ButtonsType) (client : ι) : Decidable (s.Running client) :=
  inferInstanceAs (Decidable (∀ call ∈ _, _))

instance (s : Lockstep ι ButtonsType) (action : Action ι ButtonsType) :
    Decidable (s.enabled action) :=
  have (client : ι) : Decidable (s.net.waiting client = none) :=
    decidable_of_iff _ Option.isNone_iff_eq_none
  match action with
  | .put _ _ _ => inferInstanceAs (Decidable (_ ∧ _ ∧ _ ∧ ∀ tuple ∈ _, _))
  | .get _ _ _ => inferInstanceAs (Decidable (_ ∧ _))
  | .read _ _ => inferInstanceAs (Decidable (¬ _ ∧ _))

section Steps

variable [DecidableEq ι] [Inhabited ButtonsType]

/-- The key presses that a call of `PutButtons` hands to `Write`. -/
def writtenBy (coder : ButtonCoder ButtonsType) (s : Lockstep ι ButtonsType) (client : ι)
    (tuples : List (ButtonsFrameTuple ButtonsType)) (writeOk : Bool) : List KeyStatePB :=
  ((s.net.handler client).putButtons coder tuples writeOk).written.flatMap
    OutgoingEventPB.keyPress

def next (coder : ButtonCoder ButtonsType) (game : Game ι) (s : Lockstep ι ButtonsType) :
    Action ι ButtonsType → Lockstep ι ButtonsType
  | .put client tuples writeOk =>
      { net := s.net.next coder (.put client tuples writeOk)
        framesPut := Function.update s.framesPut client (s.framesPut client + 1)
        remaining :=
          Function.update s.remaining client (game.connectedPorts.map ConnectedPortPB.port)
        inFlight := fun other =>
          if other = client then s.inFlight other
          else s.inFlight other + s.writtenBy coder client tuples writeOk }
  | .get client port buttons =>
      { s with
        net := s.net.next coder (.get client port (s.framesPut client - 1) buttons)
        remaining := Function.update s.remaining client ((s.remaining client).erase port) }
  | .read client outcome =>
      { s with
        net := s.net.next coder (.read client outcome)
        inFlight :=
          Function.update s.inFlight client (s.inFlight client - pressesIn outcome) }

/-- The loops begin when the game has started. -/
def Starts (game : Game ι) (s : Lockstep ι ButtonsType) : Prop :=
  Network.Starts game s.net ∧
    ∀ client, s.framesPut client = 0 ∧ s.remaining client = [] ∧ s.inFlight client = 0

/-- The clients of a game in lockstep, interleaved in every possible way. -/
def system (coder : ButtonCoder ButtonsType) (game : Game ι) :
    TransitionSystem (Lockstep ι ButtonsType) (Action ι ButtonsType) where
  init := Starts game
  enabled := enabled
  next := next coder game

end Steps

instance (coder : ButtonCoder ButtonsType) (game : Game ι) (s : Lockstep ι ButtonsType)
    (action : Action ι ButtonsType) [DecidableEq ι] [Inhabited ButtonsType] :
    Decidable ((system coder game).enabled s action) :=
  inferInstanceAs (Decidable (s.enabled action))

/-! ### Lockstep runs are runs of the network -/

/-- The step of the network that a step of the loops makes. -/
def networkAction (s : Lockstep ι ButtonsType) :
    Action ι ButtonsType → Network.Action ι ButtonsType
  | .put client tuples writeOk => .put client tuples writeOk
  | .get client port buttons => .get client port (s.framesPut client - 1) buttons
  | .read client outcome => .read client outcome

/-- Key presses on their way were written by the owner of their port, for others. -/
def Carried (game : Game ι) (s : Lockstep ι ButtonsType) : Prop :=
  ∀ client, ∀ key ∈ s.inFlight client,
    game.owner key.port ≠ client ∧ key ∈ s.net.written (game.owner key.port)

section Network

variable [DecidableEq ι] [Inhabited ButtonsType] {coder : ButtonCoder ButtonsType}
  {game : Game ι} {s : Lockstep ι ButtonsType}

theorem next_net (a : Action ι ButtonsType) :
    (next coder game s a).net = s.net.next coder (s.networkAction a) := by
  cases a with
  | put client tuples writeOk => rfl
  | get client port buttons => rfl
  | read client outcome => rfl

omit [DecidableEq ι] [Inhabited ButtonsType] in
theorem mem_localPorts_of_perm {client : ι} {tuples : List (ButtonsFrameTuple ButtonsType)}
    (hports : (tuples.map ButtonsFrameTuple.port).Perm (s.net.handler client).localPorts.toList)
    {tuple : ButtonsFrameTuple ButtonsType} (htuple : tuple ∈ tuples) :
    tuple.port ∈ (s.net.handler client).localPorts := by
  have hmem := hports.mem_iff.mp (List.mem_map_of_mem htuple)
  exact Std.ExtTreeSet.mem_toList.mp hmem

omit [DecidableEq ι] [Inhabited ButtonsType] in
theorem enabled_network (hcarried : Carried game s) {a : Action ι ButtonsType}
    (henabled : s.enabled a) : Network.enabled game s.net (s.networkAction a) := by
  cases a with
  | put client tuples writeOk =>
      obtain ⟨-, -, hports, -⟩ := henabled
      exact fun tuple htuple => mem_localPorts_of_perm hports htuple
  | get client port buttons => exact henabled.1.1
  | read client outcome =>
      refine ⟨henabled.1, ?_⟩
      intro event hevent keys hkeys
      subst hevent
      exact hcarried client keys (Multiset.mem_of_le henabled.2 hkeys)

omit [DecidableEq ι] in
/-- Whatever a client writes names one of its own ports. -/
theorem owner_of_mem_writtenBy (hheader : coder.KeepsHeader) (hinv : Network.Inv game coder s.net)
    {client : ι} {tuples : List (ButtonsFrameTuple ButtonsType)} {writeOk : Bool}
    {key : KeyStatePB} (hkey : key ∈ s.writtenBy coder client tuples writeOk) :
    game.owner key.port = client := by
  obtain ⟨sent, hsub, htransmits⟩ :=
    putButtons_transmits hheader tuples writeOk (s.net.handler client)
  obtain ⟨tuple, htuple, htransmit, -⟩ := forall₂_mem_right htransmits hkey
  have hlocal := (List.mem_filter.mp (hsub.subset htuple)).2
  obtain ⟨-, -, -, howner, -⟩ := hinv.local_port (of_decide_eq_true hlocal)
  rw [htransmit.port]
  exact howner

theorem carried_next (hheader : coder.KeepsHeader) (hinv : Network.Inv game coder s.net)
    (hcarried : Carried game s) (a : Action ι ButtonsType) :
    Carried game (next coder game s a) := by
  have hkeeps : ∀ {receiver key}, key ∈ s.inFlight receiver →
      game.owner key.port ≠ receiver ∧
        key ∈ (next coder game s a).net.written (game.owner key.port) := by
    intro receiver key hkey
    obtain ⟨howner, hwritten⟩ := hcarried receiver key hkey
    rw [next_net]
    exact ⟨howner, s.net.written_subset_next coder _ _ hwritten⟩
  intro receiver key hkey
  cases a with
  | put client tuples writeOk =>
      by_cases hself : receiver = client
      · rw [show (next coder game s (.put client tuples writeOk)).inFlight receiver =
          s.inFlight receiver from if_pos hself] at hkey
        exact hkeeps hkey
      · rw [show (next coder game s (.put client tuples writeOk)).inFlight receiver =
          s.inFlight receiver + s.writtenBy coder client tuples writeOk from if_neg hself] at hkey
        rcases Multiset.mem_add.mp hkey with hkey | hkey
        · exact hkeeps hkey
        · have howner := owner_of_mem_writtenBy hheader hinv (Multiset.mem_coe.mp hkey)
          rw [howner]
          refine ⟨Ne.symm hself, ?_⟩
          show key ∈ Function.update s.net.written client
            (s.net.written client ++ s.writtenBy coder client tuples writeOk) client
          rw [Function.update_self]
          exact List.mem_append_right _ (Multiset.mem_coe.mp hkey)
  | get client port buttons => exact hkeeps hkey
  | read client outcome =>
      have hkey : key ∈ Function.update s.inFlight client
        (s.inFlight client - pressesIn outcome) receiver := hkey
      by_cases hself : receiver = client
      · subst hself
        rw [Function.update_self] at hkey
        exact hkeeps (Multiset.mem_of_le (Multiset.sub_le_self _ _) hkey)
      · rw [Function.update_of_ne hself] at hkey
        exact hkeeps hkey

/-- In lockstep the clients do only what the clients of the game may do, so every
law of the network holds. -/
theorem reachable_network (hheader : coder.KeepsHeader) (hreach : (system coder game).Reachable s) :
    (Network.system coder game).Reachable s.net ∧ Carried game s := by
  refine hreach.map Lockstep.net ?_ ?_
  · intro s hinit
    refine ⟨hinit.1, fun client key hkey => ?_⟩
    rw [(hinit.2 client).2.2] at hkey
    exact absurd hkey (Multiset.notMem_zero key)
  · intro s a hnetwork hcarried henabled
    have hinv := Network.reachable_inv hheader hnetwork
    exact ⟨⟨s.networkAction a, enabled_network hcarried henabled, next_net a⟩,
      carried_next hheader hinv hcarried a⟩

end Network

/-! ### The pace of one client -/

/-- Where a client is in its loop.  The cursor of a port that it has yet to read
is the frame it has put last, and the cursor of any other port is the next frame,
unless the call for it failed. -/
structure Pace (connectedPorts : List ConnectedPortPB) (queues : QueueMap ButtonsType)
    (waiting : Option (Waiting ButtonsType)) (returned : List (Returned ButtonsType))
    (framesPut : ℕ) (remaining : List Port) : Prop where
  nodup : remaining.Nodup
  waiting_frame : ∀ w ∈ waiting, w.frame = framesPut - 1
  waiting_port : ∀ w ∈ waiting, w.port ∉ remaining
  unread : ∀ port, port ∈ remaining ∨ (∃ w ∈ waiting, w.port = port) →
    QueueMap.cursorOf queues port = some ((framesPut : Int) - 1)
  read : ∀ port ∈ connectedPorts.map ConnectedPortPB.port, port ∉ remaining →
    (∀ w ∈ waiting, w.port ≠ port) →
      QueueMap.cursorOf queues port = some (framesPut : Int) ∨
        (∃ call ∈ returned, ¬ call.IsSuccess) ∧
          QueueMap.cursorOf queues port = some ((framesPut : Int) - 1)

section Pace

variable {connectedPorts : List ConnectedPortPB} {waiting : Option (Waiting ButtonsType)}
  {returned : List (Returned ButtonsType)} {framesPut : ℕ} {remaining : List Port}

/-- A client is at most one frame behind what it has put. -/
theorem Pace.cursor {queues : QueueMap ButtonsType}
    (h : Pace connectedPorts queues waiting returned framesPut remaining) {port : Port}
    (hport : port ∈ connectedPorts.map ConnectedPortPB.port) :
    ∃ frame, QueueMap.cursorOf queues port = some frame ∧ framesPut ≤ frame + 1 ∧
      frame ≤ framesPut := by
  by_cases hunread : port ∈ remaining ∨ ∃ w ∈ waiting, w.port = port
  · exact ⟨_, h.unread port hunread, by omega, by omega⟩
  · simp only [not_or, not_exists, not_and] at hunread
    rcases h.read port hport hunread.1 hunread.2 with hcursor | ⟨-, hcursor⟩
    · exact ⟨_, hcursor, by omega, by omega⟩
    · exact ⟨_, hcursor, by omega, by omega⟩

/-- The frame after the last one has been put, when everything has been read. -/
theorem Pace.put {queues : QueueMap ButtonsType}
    (h : Pace connectedPorts queues none returned framesPut [])
    (hrunning : ∀ call ∈ returned, call.IsSuccess)
    (hnodup : (connectedPorts.map ConnectedPortPB.port).Nodup)
    (taken : List (ButtonsFrameTuple ButtonsType)) (returned' : List (Returned ButtonsType)) :
    Pace connectedPorts (QueueMap.insertTuples queues taken) none (returned ++ returned')
      (framesPut + 1) (connectedPorts.map ConnectedPortPB.port) where
  nodup := hnodup
  waiting_frame := by simp
  waiting_port := by simp
  unread := by
    rintro port (hport | ⟨w, hw, -⟩)
    · rw [QueueMap.cursorOf_insertTuples]
      have hread := h.read port hport List.not_mem_nil (by simp)
      rcases hread with hcursor | ⟨⟨call, hcall, hfailed⟩, -⟩
      · rw [hcursor]
        congr 1
        omega
      · exact absurd (hrunning call hcall) hfailed
    · cases hw
  read := fun port hport hread => absurd hport hread

/-- A step of a call that reads a port the client had yet to read. -/
theorem Pace.callStep [Inhabited ButtonsType] {handler handler' : EventStreamHandler ButtonsType}
    (h : Pace connectedPorts handler.inputQueues waiting returned framesPut remaining)
    {taken : List (ButtonsFrameTuple ButtonsType)} {w : Waiting ButtonsType}
    {waiting' : Option (Waiting ButtonsType)} {returned' : List (Returned ButtonsType)}
    (hstep : Network.CallStep handler taken w handler' waiting' returned') {remaining' : List Port}
    (hframe : w.frame = framesPut - 1)
    (hunread : w.port ∈ remaining ∨ ∃ w' ∈ waiting, w'.port = w.port)
    (hnodup : remaining'.Nodup) (hport : w.port ∉ remaining')
    (hothers : ∀ port, port ≠ w.port →
      (port ∈ remaining' ↔ port ∈ remaining ∨ ∃ w' ∈ waiting, w'.port = port)) :
    Pace connectedPorts handler'.inputQueues waiting' (returned ++ returned') framesPut
      remaining' := by
  have hcursor : QueueMap.cursorOf handler.inputQueues w.port = some w.frame := by
    rw [hframe]
    exact h.unread w.port hunread
  -- the other ports are as they were
  have hunreadOther : ∀ port ≠ w.port, port ∈ remaining' →
      QueueMap.cursorOf handler.inputQueues port = some ((framesPut : Int) - 1) :=
    fun port hne hmem => h.unread port ((hothers port hne).mp hmem)
  have hreadOther : ∀ port ≠ w.port, port ∈ connectedPorts.map ConnectedPortPB.port →
      port ∉ remaining' → QueueMap.cursorOf handler.inputQueues port = some (framesPut : Int) ∨
        (∃ call ∈ returned ++ returned', ¬ call.IsSuccess) ∧
          QueueMap.cursorOf handler.inputQueues port = some ((framesPut : Int) - 1) := by
    intro port hne hconnected hnot
    rw [hothers port hne] at hnot
    simp only [not_or, not_exists, not_and] at hnot
    rcases h.read port hconnected hnot.1 hnot.2 with hcursor | ⟨⟨call, hcall, hfailed⟩, hcursor⟩
    · exact Or.inl hcursor
    · exact Or.inr ⟨⟨call, List.mem_append_left _ hcall, hfailed⟩, hcursor⟩
  rcases hstep.cursors hcursor with ⟨hsame, hwaits | ⟨hreturns, call, hcall, hfailed⟩⟩ |
    ⟨hmoved, hreturns, value, hsuccess⟩
  -- the call waits, with its cursor where it was
  · subst hwaits
    refine ⟨hnodup, ?_, ?_, ?_, ?_⟩
    · rintro w' ⟨⟩
      exact hframe
    · rintro w' ⟨⟩
      exact hport
    · intro port hpending
      rw [hsame]
      by_cases hself : port = w.port
      · rw [hself, hcursor, hframe]
      · rcases hpending with hmem | ⟨w', ⟨⟩, habs⟩
        · exact hunreadOther port hself hmem
        · exact absurd habs.symm hself
    · intro port hconnected hnot hne
      rw [hsame]
      exact hreadOther port (Ne.symm (hne w rfl)) hconnected hnot
  -- it failed, which the history remembers
  · subst hreturns
    refine ⟨hnodup, by simp, by simp, ?_, ?_⟩
    · rintro port (hmem | ⟨w', ⟨⟩, -⟩)
      rw [hsame]
      refine hunreadOther port ?_ hmem
      rintro rfl
      exact hport hmem
    · intro port hconnected hnot _
      rw [hsame]
      by_cases hself : port = w.port
      · rw [hself, hcursor, hframe]
        exact Or.inr ⟨⟨call, List.mem_append_right _ hcall, hfailed⟩, rfl⟩
      · exact hreadOther port hself hconnected hnot
  -- it returned its frame, and its cursor is the next one
  · subst hreturns
    refine ⟨hnodup, by simp, by simp, ?_, ?_⟩
    · rintro port (hmem | ⟨w', ⟨⟩, -⟩)
      have hne : port ≠ w.port := by
        rintro rfl
        exact hport hmem
      rw [hmoved, if_neg (Ne.symm hne)]
      exact hunreadOther port hne hmem
    · intro port hconnected hnot _
      rw [hmoved]
      by_cases hself : port = w.port
      · rw [if_pos hself.symm, hframe]
        refine Or.inl ?_
        congr 1
        omega
      · rw [if_neg (Ne.symm hself)]
        exact hreadOther port hself hconnected hnot

end Pace

/-! ### The pace of all clients -/

/-- Every client is in its loop, no cursor is further than the owner of the port
lets it, and nothing is accepted for a frame that has not been put. -/
structure Paced (game : Game ι) (s : Lockstep ι ButtonsType) : Prop where
  pace : ∀ client, Pace game.connectedPorts (s.net.handler client).inputQueues
    (s.net.waiting client) (s.net.returned client) (s.framesPut client) (s.remaining client)
  ahead : ∀ client, ∀ connectedPort ∈ game.connectedPorts, ∀ frame,
    QueueMap.cursorOf (s.net.handler client).inputQueues connectedPort.port = some frame →
      frame ≤ s.framesPut (game.owner connectedPort.port) + connectedPort.delayFrames
  accepted_lt : ∀ client, ∀ tuple ∈ s.net.accepted client, tuple.frame < s.framesPut client

section Paced

variable {game : Game ι} {s : Lockstep ι ButtonsType}

theorem Paced.init (hstart : Starts game s) : Paced game s := by
  obtain ⟨⟨hstarted, -, hempty⟩, hcounters⟩ := hstart
  have hcursor : ∀ client port frame,
      QueueMap.cursorOf (s.net.handler client).inputQueues port = some frame → frame = 0 := by
    intro client port frame hframe
    obtain ⟨connectedPorts, hstart, -⟩ := hstarted client
    obtain ⟨queue, hqueue, hexpected⟩ := Option.map_eq_some_iff.mp hframe
    rw [← hexpected, InputQueue.expectedFrame, (hstart.started.fresh hqueue).1]
    rfl
  refine ⟨?_, ?_, ?_⟩
  · intro client
    obtain ⟨connectedPorts, hstart, hmem⟩ := hstarted client
    have hplaying := hstart.started.playing.of_mem_iff hmem
    obtain ⟨hframesPut, hremaining, -⟩ := hcounters client
    rw [(hempty client).1, hframesPut, hremaining]
    refine ⟨.nil, by simp, by simp, by simp, ?_⟩
    intro port hport _ _
    obtain ⟨connectedPort, hconnected, rfl⟩ := List.mem_map.mp hport
    obtain ⟨queue, hqueue, -⟩ := hplaying.queue_of_mem connectedPort hconnected
    have hsome := QueueMap.cursorOf_of_some hqueue
    rw [hsome, hcursor client _ _ hsome]
    exact Or.inl rfl
  · intro client connectedPort hconnected frame hframe
    have hdelay := game.delay_nonneg connectedPort hconnected
    rw [hcursor client _ _ hframe]
    omega
  · intro client tuple htuple
    rw [(hempty client).2.1] at htuple
    cases htuple

variable [DecidableEq ι] [Inhabited ButtonsType] {coder : ButtonCoder ButtonsType}

theorem Paced.put (h : Paced game s) {client : ι} {tuples : List (ButtonsFrameTuple ButtonsType)}
    {writeOk : Bool} (henabled : s.enabled (.put client tuples writeOk)) :
    Paced game (next coder game s (.put client tuples writeOk)) := by
  obtain ⟨⟨hidle, hrunning⟩, hread, -, hframes⟩ := henabled
  have hspec := putButtons_spec coder tuples writeOk (s.net.handler client)
  have hqueues := putButtons_inputQueues coder tuples writeOk (s.net.handler client)
  have hgrows : ∀ owner, s.framesPut owner ≤
      (next coder game s (.put client tuples writeOk)).framesPut owner := by
    intro owner
    by_cases hself : owner = client
    · simp only [next, hself, Function.update_self]
      omega
    · simp only [next, Function.update_of_ne hself]
      exact le_rfl
  refine ⟨?_, ?_, ?_⟩
  · intro other
    by_cases hself : other = client
    · subst hself
      have hpace := h.pace other
      rw [hidle, hread] at hpace
      simp only [next, Network.next, Network.update, Function.update_self, hqueues, hidle]
      exact hpace.put hrunning game.nodup _ _
    · simp only [next, Network.next, Network.update, Function.update_of_ne hself]
      exact h.pace other
  · intro other connectedPort hconnected frame hframe
    have hbefore : QueueMap.cursorOf (s.net.handler other).inputQueues connectedPort.port =
        some frame := by
      by_cases hself : other = client
      · subst hself
        simp only [next, Network.next, Network.update, Function.update_self, hqueues] at hframe
        rw [QueueMap.cursorOf_insertTuples] at hframe
        exact hframe
      · simp only [next, Network.next, Network.update, Function.update_of_ne hself] at hframe
        exact hframe
    have hbound := h.ahead other connectedPort hconnected frame hbefore
    have hcount := hgrows (game.owner connectedPort.port)
    omega
  · intro other tuple htuple
    rcases Network.mem_accepted_update.mp htuple with hold | ⟨rfl, hput⟩
    · have hlt := h.accepted_lt other tuple hold
      have hcount := hgrows other
      omega
    · obtain ⟨rest, hrest, -⟩ := hspec.stopped
      have hframe := hframes tuple (by
        rw [hrest]
        exact List.mem_append_left _ hput)
      simp only [next, Function.update_self]
      omega

/-- What `get` and `read` share: a step of a call at one client. -/
theorem Paced.callStep (h : Paced game s) {s' : Lockstep ι ButtonsType} {client : ι}
    {handler : EventStreamHandler ButtonsType} {taken : List (ButtonsFrameTuple ButtonsType)}
    {w : Waiting ButtonsType} {waiting : Option (Waiting ButtonsType)}
    {returned : List (Returned ButtonsType)} {remaining : List Port}
    (hstep : Network.CallStep (s.net.handler client) taken w handler waiting returned)
    (hnet : s'.net = s.net.update client handler waiting [] [] returned)
    (hframesPut : s'.framesPut = s.framesPut)
    (hremaining : s'.remaining = Function.update s.remaining client remaining)
    (hinv : Network.Inv game coder s'.net)
    (hpace : Pace game.connectedPorts handler.inputQueues waiting
      (s.net.returned client ++ returned) (s.framesPut client) remaining)
    (hcursor : QueueMap.cursorOf (s.net.handler client).inputQueues w.port = some w.frame) :
    Paced game s' := by
  obtain ⟨net, framesPut, remaining', inFlight⟩ := s'
  simp only at hnet hframesPut hremaining hinv
  subst hnet hframesPut hremaining
  refine ⟨?_, ?_, ?_⟩
  · intro other
    by_cases hself : other = client
    · subst hself
      simp only [Network.update, Function.update_self]
      exact hpace
    · simp only [Network.update, Function.update_of_ne hself]
      exact h.pace other
  · intro other connectedPort hconnected frame hframe
    by_cases hself : other = client
    · subst hself
      simp only [Network.update, Function.update_self] at hframe
      rcases hstep.cursors hcursor with ⟨hsame, -⟩ | ⟨hmoved, -, value, rfl⟩
      · rw [hsame] at hframe
        exact h.ahead other connectedPort hconnected frame hframe
      · rw [hmoved] at hframe
        split_ifs at hframe with hport
        · -- the value that was read is either a default or comes from the owner
          obtain rfl := Option.some.inj hframe
          obtain ⟨connectedPort', hconnected', hport', hvalue⟩ :=
            hinv.returned other w.port w.frame value (by
              simp only [Network.update, Function.update_self]
              exact List.mem_append_right _ (List.mem_singleton_self _))
          obtain rfl := Network.eq_of_port_eq hconnected hconnected' (by rw [hport', hport])
          simp only
          rcases hvalue with ⟨hearly, -⟩ | ⟨-, haccepted⟩
          · omega
          · obtain ⟨connectedPort', hconnected', hport', sent, hsent, -⟩ := haccepted
            obtain rfl := Network.eq_of_port_eq hconnected hconnected' (by rw [hport', hport])
            rw [Network.update_accepted_nil] at hsent
            have hlt := h.accepted_lt _ _ hsent
            simp only at hlt
            rw [hport] at hlt
            omega
        · exact h.ahead other connectedPort hconnected frame hframe
    · simp only [Network.update, Function.update_of_ne hself] at hframe
      exact h.ahead other connectedPort hconnected frame hframe
  · intro other tuple htuple
    rw [Network.update_accepted_nil] at htuple
    exact h.accepted_lt other tuple htuple

theorem paced_next (hinv : Network.Inv game coder s.net) (hcarried : Carried game s)
    (hheader : coder.KeepsHeader) (h : Paced game s) {a : Action ι ButtonsType}
    (henabled : s.enabled a) : Paced game (next coder game s a) := by
  have hinv' : Network.Inv game coder (next coder game s a).net := by
    rw [next_net]
    exact Network.inv_next hheader hinv (enabled_network hcarried henabled)
  cases a with
  | put client tuples writeOk => exact h.put henabled
  | get client port buttons =>
      obtain ⟨⟨hidle, -⟩, hport⟩ := henabled
      obtain ⟨handler, waiting, returned, hnext, hstep, -⟩ := Network.next_get coder
        (hinv.playing client).valid port (s.framesPut client - 1) buttons
      have hpace := h.pace client
      have hcursor := hpace.unread port (Or.inl hport)
      rw [hidle] at hpace
      refine h.callStep hstep hnext rfl rfl hinv' ?_ hcursor
      refine hpace.callStep hstep rfl (Or.inl hport) (hpace.nodup.erase port)
        hpace.nodup.not_mem_erase ?_
      intro other hne
      rw [List.mem_erase_of_ne hne]
      simp
  | read client outcome =>
      obtain ⟨hsome, -⟩ := henabled
      obtain ⟨w, hwaiting⟩ := Option.ne_none_iff_exists'.mp hsome
      obtain ⟨handler, waiting, returned, hnext, hstep, -⟩ := Network.next_read coder hwaiting
        (hinv.playing client).valid outcome
      have hpace := h.pace client
      rw [hwaiting] at hpace
      have hframe := hpace.waiting_frame w rfl
      have hcursor := hpace.unread w.port (Or.inr ⟨w, rfl, rfl⟩)
      rw [← hframe] at hcursor
      refine h.callStep hstep hnext rfl (Function.update_eq_self client s.remaining).symm hinv' ?_
        hcursor
      refine hpace.callStep hstep hframe (Or.inr ⟨w, rfl, rfl⟩) hpace.nodup
        (hpace.waiting_port w rfl) ?_
      intro other hne
      constructor
      · exact Or.inl
      · rintro (hmem | ⟨w', ⟨⟩, habs⟩)
        · exact hmem
        · exact absurd habs.symm hne

theorem reachable_paced (hheader : coder.KeepsHeader) (hreach : (system coder game).Reachable s) :
    Paced game s := by
  refine hreach.invariant_of (J := fun s => Network.Inv game coder s.net ∧ Carried game s)
    (fun s hs => ?_) (fun s hinit => Paced.init (s := s) hinit) ?_
  · obtain ⟨hnetwork, hcarried⟩ := reachable_network hheader hs
    exact ⟨Network.reachable_inv hheader hnetwork, hcarried⟩
  · intro s a hknown h henabled
    show Paced game (next coder game s a)
    exact paced_next hknown.1 hknown.2 hheader h henabled

/-! ### Bounds -/

/-- The least delay among the ports of a client. -/
def leastDelay (game : Game ι) (client : ι) : Option Int :=
  ((game.connectedPorts.filter fun connectedPort => game.owner connectedPort.port = client).map
    ConnectedPortPB.delayFrames).min?

omit [Inhabited ButtonsType] in
theorem exists_leastDelay {client : ι}
    (howns : ∃ connectedPort ∈ game.connectedPorts, game.owner connectedPort.port = client) :
    ∃ connectedPort ∈ game.connectedPorts, game.owner connectedPort.port = client ∧
      leastDelay game client = some connectedPort.delayFrames := by
  obtain ⟨connectedPort, hconnected, howner⟩ := howns
  have hmem : connectedPort.delayFrames ∈ (game.connectedPorts.filter
      fun connectedPort => game.owner connectedPort.port = client).map
        ConnectedPortPB.delayFrames :=
    List.mem_map_of_mem (List.mem_filter.mpr ⟨hconnected, by simpa using howner⟩)
  cases hleast : leastDelay game client with
  | none =>
      rw [leastDelay, List.min?_eq_none_iff] at hleast
      rw [hleast] at hmem
      cases hmem
  | some delay =>
      obtain ⟨least, hleast', rfl⟩ := List.mem_map.mp (List.min?_mem hleast)
      obtain ⟨hconnected', howner'⟩ := List.mem_filter.mp hleast'
      exact ⟨least, hconnected', by simpa using howner', rfl⟩

/-- **Bounded skew and bounded buffering.**  In lockstep no client is more than
one frame and the least delay of another ahead of it, and no queue holds more
than that and the delay of its own port allow. -/
theorem bounded_skew (hheader : coder.KeepsHeader) (hreach : (system coder game).Reachable s)
    (a b : ι)
    (howns : ∃ connectedPort ∈ game.connectedPorts, game.owner connectedPort.port = b) :
    ∃ least, leastDelay game b = some least ∧
      (s.framesPut a : Int) ≤ s.framesPut b + (1 + least) ∧
      ∀ connectedPort ∈ game.connectedPorts, game.owner connectedPort.port = a →
        ∃ queue, (s.net.handler b).inputQueues[connectedPort.port]? = some queue ∧
          (queue.queueSize : Int) ≤ connectedPort.delayFrames + least + 2 := by
  have hinv := Network.reachable_inv hheader (reachable_network hheader hreach).1
  have h := reachable_paced hheader hreach
  obtain ⟨least, hleast, hownsLeast, hsome⟩ := exists_leastDelay howns
  -- a client can be ahead of another only as far as it has read of it
  have hskew : (s.framesPut a : Int) ≤ s.framesPut b + (1 + least.delayFrames) := by
    obtain ⟨frame, hcursor, hread, -⟩ := (h.pace a).cursor (List.mem_map_of_mem hleast)
    have hahead := h.ahead a least hleast frame hcursor
    rw [hownsLeast] at hahead
    omega
  refine ⟨least.delayFrames, hsome, hskew, ?_⟩
  intro connectedPort hconnected howner
  obtain ⟨frame, hcursor, hread, -⟩ := (h.pace b).cursor (List.mem_map_of_mem hconnected)
  obtain ⟨queue, hqueue, hexpected⟩ := Option.map_eq_some_iff.mp hcursor
  refine ⟨queue, hqueue, ?_⟩
  have hsize := @InputQueue.queueSize_le _ queue (s.framesPut b - 1)
    (s.framesPut a + connectedPort.delayFrames) (by
      intro k hk
      have hunread := ((hinv.playing b).valid connectedPort.port queue hqueue).latest_lt k hk
      obtain ⟨value, hvalue⟩ := Option.isSome_iff_exists.mp
        (Std.ExtTreeMap.mem_iff_isSome_getElem?.mp hk)
      obtain ⟨connectedPort', hconnected', hport', sent, hsent, -⟩ :=
        hinv.buffered b connectedPort.port queue hqueue k value hvalue
      obtain rfl := Network.eq_of_port_eq hconnected hconnected' hport'.symm
      have hlt := h.accepted_lt _ _ hsent
      rw [howner] at hlt
      simp only at hlt
      rw [InputQueue.expectedFrame] at hexpected
      omega)
  have hdelay := game.delay_nonneg connectedPort hconnected
  have hdelayLeast := game.delay_nonneg least hleast
  omega

end Paced

/-! ### Running ahead -/

/-- Two players at the start of their loops. -/
def twoStarted : Lockstep Network.Player Int where
  net := Network.twoStarted
  framesPut := fun _ => 0
  remaining := fun _ => []
  inFlight := fun _ => 0

theorem twoStarted_starts : Starts Network.twoPlayers twoStarted :=
  ⟨Network.twoStarted_starts, fun _ => ⟨rfl, rfl, rfl⟩⟩

/-- Player 1 plays on while player 2 has not begun, until it has to wait. -/
def runAhead : List (Action Network.Player Int) :=
  [.put .one [⟨1, 0, 7⟩] true, .get .one 1 0, .get .one 2 0, .put .one [⟨1, 1, 8⟩] true,
    .get .one 2 0, .get .one 1 0, .put .one [⟨1, 2, 9⟩] true, .get .one 2 0]

theorem bounded_skew_runAhead :
    (runAhead.foldl (next integerCoder Network.twoPlayers) twoStarted).framesPut .one = 3 ∧
      ∃ least, leastDelay Network.twoPlayers .two = some least ∧
        ((runAhead.foldl (next integerCoder Network.twoPlayers) twoStarted).framesPut .one : Int) ≤
          (runAhead.foldl (next integerCoder Network.twoPlayers) twoStarted).framesPut .two +
            (1 + least) := by
  have hschedule : (system integerCoder Network.twoPlayers).Schedule twoStarted runAhead := by
    decide
  have hreach : (system integerCoder Network.twoPlayers).Reachable
      (runAhead.foldl (next integerCoder Network.twoPlayers) twoStarted) :=
    TransitionSystem.Reachable.foldl (.init twoStarted_starts) hschedule
  obtain ⟨least, hleast, hskew, -⟩ :=
    bounded_skew integerCoder_keepsHeader hreach .one .two (by decide)
  exact ⟨by decide, least, hleast, hskew⟩

end Lockstep

end Session
end Netplay
