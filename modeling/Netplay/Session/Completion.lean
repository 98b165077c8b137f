import Mathlib.Algebra.Order.BigOperators.Group.Finset
import Mathlib.Algebra.BigOperators.Ring.Finset
import Mathlib.Data.Fintype.BigOperators
import Mathlib.Tactic.Positivity
import Netplay.Session.Delivery
import Netplay.Session.Progress

/-!
# Every lockstep run gets everywhere

Over a reliable server the clients in lockstep complete every number of frames, in every
run and without any fairness: a run can always be continued (`exists_working`), and each
step is paid for by the frames that were put (`work_next`).  So a long run has put many
frames, and as no client is far ahead of another, all clients have.

What a client puts is up to its player (`Plays`).  Reads that bring nothing are not counted
as steps.

* `every_run_completes`: how long a run can be before a client has put so many frames.
* `countP_add_credit_le`: how many steps of a run do something, reliable or not.
* `stopped_client`: how many such steps are left once a call of a client has failed.
-/

namespace Netplay
namespace Session
namespace Lockstep

open Client Client.EventStreamHandler

variable {ι ButtonsType : Type*}

/-- The buttons put are those that the players press. -/
def Plays (pressed : ι → Port → Int → ButtonsType) : Action ι ButtonsType → Prop
  | .put client tuples _ => ∀ tuple ∈ tuples, tuple.buttons = pressed client tuple.port tuple.frame
  | .get _ _ _ => True
  | .read _ _ => True

/-- A read brings key presses. -/
def Brings : Action ι ButtonsType → Prop
  | .read _ outcome => pressesIn outcome ≠ 0
  | _ => True

/-- A reliable step that does something, with the buttons that the players press. -/
structure Working (pressed : ι → Port → Int → ButtonsType) (s : Lockstep ι ButtonsType)
    (action : Action ι ButtonsType) : Prop where
  reliable : s.Reliable action
  plays : Plays pressed action
  brings : Brings action

instance [DecidableEq ButtonsType] (pressed : ι → Port → Int → ButtonsType)
    (action : Action ι ButtonsType) : Decidable (Plays pressed action) :=
  match action with
  | .put _ _ _ => inferInstanceAs (Decidable (∀ tuple ∈ _, _))
  | .get _ _ _ => isTrue trivial
  | .read _ _ => isTrue trivial

instance (action : Action ι ButtonsType) : Decidable (Brings action) :=
  match action with
  | .put _ _ _ => isTrue trivial
  | .get _ _ _ => isTrue trivial
  | .read _ outcome => inferInstanceAs (Decidable (pressesIn outcome ≠ 0))

instance [DecidableEq ButtonsType] (pressed : ι → Port → Int → ButtonsType)
    (s : Lockstep ι ButtonsType) (action : Action ι ButtonsType) :
    Decidable (s.Working pressed action) :=
  decidable_of_iff (s.Reliable action ∧ Plays pressed action ∧ Brings action)
    ⟨fun h => ⟨h.1, h.2.1, h.2.2⟩, fun h => ⟨h.reliable, h.plays, h.brings⟩⟩

section Steps

variable [DecidableEq ι] [Inhabited ButtonsType] {coder : ButtonCoder ButtonsType}
  {game : Game ι} {s : Lockstep ι ButtonsType} {pressed : ι → Port → Int → ButtonsType}

/-- Lockstep with these players, over a reliable server. -/
def workingSystem (coder : ButtonCoder ButtonsType) (game : Game ι)
    (pressed : ι → Port → Int → ButtonsType) :
    TransitionSystem (Lockstep ι ButtonsType) (Action ι ButtonsType) :=
  (system coder game).restrict (Working pressed)

/-- Its runs are reliable runs of the loops. -/
theorem reachable_reliable (hreach : (workingSystem coder game pressed).Reachable s) :
    ((system coder game).restrict Reliable).Reachable s :=
  hreach.restrict_mono fun _ _ hworking => hworking.reliable

/-! ### A run can be continued -/

/-- The next frame of a client that has read everything. -/
def nextTuples (pressed : ι → Port → Int → ButtonsType) (s : Lockstep ι ButtonsType)
    (client : ι) : List (ButtonsFrameTuple ButtonsType) :=
  (s.net.handler client).localPorts.toList.map fun port =>
    ⟨port, s.framesPut client, pressed client port (s.framesPut client)⟩

omit [DecidableEq ι] [Inhabited ButtonsType] in
theorem enabled_nextTuples {client : ι} (hidle : s.net.waiting client = none)
    (hrunning : s.Running client) (hread : s.remaining client = []) :
    s.enabled (.put client (nextTuples pressed s client) true) ∧
      s.Working pressed (.put client (nextTuples pressed s client) true) := by
  have hports : (nextTuples pressed s client).map ButtonsFrameTuple.port =
      (s.net.handler client).localPorts.toList := by
    rw [nextTuples, List.map_map]
    exact List.map_id _
  refine ⟨⟨⟨hidle, hrunning⟩, hread, by rw [hports], ?_⟩, rfl, ?_, trivial⟩
  · intro tuple htuple
    obtain ⟨port, -, rfl⟩ := List.mem_map.mp htuple
    rfl
  · intro tuple htuple
    obtain ⟨port, -, rfl⟩ := List.mem_map.mp htuple
    rfl

omit [DecidableEq ι] [Inhabited ButtonsType] in
/-- Everything that is on its way to a waiting client can be brought to it. -/
theorem exists_read {client : ι} (hwaiting : s.net.waiting client ≠ none)
    (hcarried : s.inFlight client ≠ 0) :
    ∃ action, s.enabled action ∧ s.Working pressed action := by
  obtain ⟨keys, hkeys⟩ := Quot.exists_rep (s.inFlight client)
  have hpresses : pressesIn (some { keyPress := keys }) = s.inFlight client := hkeys
  refine ⟨.read client (some { keyPress := keys }), ⟨hwaiting, hpresses.le⟩, ?_⟩
  refine ⟨⟨_, rfl, rfl, rfl, rfl⟩, trivial, ?_⟩
  show pressesIn _ ≠ 0
  rw [hpresses]
  exact hcarried

omit [DecidableEq ι] in
/-- The client that has put the fewest frames can take a step. -/
theorem Flowing.exists_working [Nonempty ι] (hflow : Flowing game coder s)
    (h : Sound game coder s) (pressed : ι → Port → Int → ButtonsType) :
    ∃ action, s.enabled action ∧ s.Working pressed action := by
  have hslowest : ∀ owner, s.framesPut (Function.argmin s.framesPut) ≤ s.framesPut owner :=
    fun owner => Function.argmin_le s.framesPut owner
  generalize Function.argmin s.framesPut = client at hslowest
  by_cases hwaiting : s.net.waiting client = none
  · cases hremaining : s.remaining client with
    | nil => exact ⟨_, enabled_nextTuples hwaiting (hflow.running client) hremaining⟩
    | cons port rest =>
        refine ⟨.get client port default, ⟨⟨hwaiting, hflow.running client⟩, ?_⟩,
          trivial, trivial, trivial⟩
        rw [hremaining]
        exact List.mem_cons_self
  · exact exists_read hwaiting fun hempty =>
      hwaiting (hflow.not_blocked h hslowest hempty)

/-! ### Every step is paid for -/

omit [DecidableEq ι] in
/-- A put sends at most one key press for each connected port. -/
theorem length_writtenBy_le (hheader : coder.KeepsHeader) (h : Network.Inv game coder s.net)
    {client : ι} {tuples : List (ButtonsFrameTuple ButtonsType)} {writeOk : Bool}
    (henabled : s.enabled (.put client tuples writeOk)) :
    (s.writtenBy coder client tuples writeOk).length ≤ game.connectedPorts.length := by
  obtain ⟨-, -, hports, -⟩ := henabled
  obtain ⟨sent, hsent, htransmits⟩ :=
    putButtons_transmits hheader tuples writeOk (s.net.handler client)
  obtain ⟨rest, hrest, -⟩ :=
    (putButtons_spec coder tuples writeOk (s.net.handler client)).stopped
  have hlocal : (s.net.handler client).localPorts.toList ⊆
      game.connectedPorts.map ConnectedPortPB.port := fun port hport =>
    (h.playing client).local_connected port (Std.ExtTreeSet.mem_toList.mp hport)
  have hcount := ((OrderedSet.nodup_toList _).subperm hlocal).length_le
  have htuples := hports.length_eq
  rw [List.length_map] at hcount htuples
  have htaken : (takenTuples coder tuples (s.net.handler client)).length ≤ tuples.length := by
    conv_rhs => rw [hrest]
    rw [List.length_append]
    omega
  have hfiltered : ((s.net.handler client).localTuples
      (takenTuples coder tuples (s.net.handler client))).length ≤
        (takenTuples coder tuples (s.net.handler client)).length := List.length_filter_le _ _
  have hsub := hsent.length_le
  have hwritten : sent.length = (s.writtenBy coder client tuples writeOk).length :=
    htransmits.length_eq
  omega

/-- What a client still has to do with the frames that were put. -/
def workOf (s : Lockstep ι ButtonsType) (client : ι) : ℕ :=
  (s.remaining client).length + (s.inFlight client).card

variable [Fintype ι]

def work (s : Lockstep ι ButtonsType) : ℕ := ∑ client, s.workOf client

/-- The frames that were put, each worth what it can cause. -/
def credit (game : Game ι) (s : Lockstep ι ButtonsType) : ℕ :=
  (Fintype.card ι * game.connectedPorts.length + 1) * ∑ client, s.framesPut client

theorem sum_framesPut_put (client : ι) (tuples : List (ButtonsFrameTuple ButtonsType))
    (writeOk : Bool) :
    ∑ owner, (next coder game s (.put client tuples writeOk)).framesPut owner =
      ∑ owner, s.framesPut owner + 1 := by
  simp only [next]
  rw [Finset.sum_update_of_mem (Finset.mem_univ client), Finset.sdiff_singleton_eq_erase,
    ← Finset.add_sum_erase Finset.univ s.framesPut (Finset.mem_univ client)]
  omega

omit [DecidableEq ι] [Inhabited ButtonsType] in
/-- A step that takes away some of the work of one client. -/
theorem work_lt {s' : Lockstep ι ButtonsType} {client : ι}
    (hclient : s'.workOf client < s.workOf client)
    (hothers : ∀ other, other ≠ client → s'.workOf other = s.workOf other) :
    s'.work < s.work := by
  refine Finset.sum_lt_sum (fun other _ => ?_) ⟨client, Finset.mem_univ client, hclient⟩
  by_cases hother : other = client
  · subst hother
    exact hclient.le
  · exact (hothers other hother).le

/-- Every step takes away work, or is a put, which earns more than the work it makes. -/
theorem work_next (hheader : coder.KeepsHeader) (h : Network.Inv game coder s.net)
    {action : Action ι ButtonsType} (henabled : s.enabled action)
    (hbrings : Brings action) :
    (next coder game s action).work + 1 + credit game s ≤
      s.work + credit game (next coder game s action) := by
  cases action with
  | put client tuples writeOk =>
      have hwritten := length_writtenBy_le hheader h henabled
      have hread := henabled.2.1
      have hmade : (next coder game s (.put client tuples writeOk)).work ≤
          s.work + Fintype.card ι * game.connectedPorts.length := by
        calc
          (next coder game s (.put client tuples writeOk)).work ≤
              ∑ other, (s.workOf other + game.connectedPorts.length) := by
            refine Finset.sum_le_sum fun other _ => ?_
            by_cases hother : other = client
            · subst hother
              simp only [workOf, next, Function.update_self, if_true, List.length_map, hread,
                List.length_nil]
              omega
            · simp only [workOf, next, Function.update_of_ne hother, if_neg hother,
                Multiset.card_add, Multiset.coe_card]
              omega
          _ = s.work + Fintype.card ι * game.connectedPorts.length := by
            rw [Finset.sum_add_distrib, Finset.sum_const, Finset.card_univ, nsmul_eq_mul,
              Nat.cast_id]
            rfl
      unfold credit
      rw [sum_framesPut_put, Nat.mul_add]
      omega
  | get client port buttons =>
      have hmem := henabled.2
      have hlt : (next coder game s (.get client port buttons)).work < s.work := by
        have hclient : (next coder game s (.get client port buttons)).workOf client <
            s.workOf client := by
          simp only [workOf, next, Function.update_self, List.length_erase_of_mem hmem]
          have hpos := List.length_pos_of_mem hmem
          omega
        refine work_lt hclient fun other hother => ?_
        simp only [workOf, next, Function.update_of_ne hother]
      have hcredit : credit game (next coder game s (.get client port buttons)) =
          credit game s := rfl
      omega
  | read client outcome =>
      have hle := henabled.2
      have hlt : (next coder game s (.read client outcome)).work < s.work := by
        have hclient : (next coder game s (.read client outcome)).workOf client <
            s.workOf client := by
          have hpos := Multiset.card_pos.mpr hbrings
          have hcard := Multiset.card_le_card hle
          simp only [workOf, next, Function.update_self, Multiset.card_sub hle]
          omega
        refine work_lt hclient fun other hother => ?_
        simp only [workOf, next, Function.update_of_ne hother]
      have hcredit : credit game (next coder game s (.read client outcome)) =
          credit game s := rfl
      omega

/-- A read that brings nothing leaves work and credit alone. -/
theorem not_brings_next (coder : ButtonCoder ButtonsType) (game : Game ι)
    (s : Lockstep ι ButtonsType) {action : Action ι ButtonsType} (hempty : ¬ Brings action) :
    (next coder game s action).work = s.work ∧
      credit game (next coder game s action) = credit game s := by
  cases action with
  | put client tuples writeOk => exact absurd trivial hempty
  | get client port buttons => exact absurd trivial hempty
  | read client outcome =>
      have hnone : pressesIn outcome = 0 := not_not.mp hempty
      refine ⟨Finset.sum_congr rfl fun other _ => ?_, rfl⟩
      by_cases hother : other = client
      · subst hother
        simp only [workOf, next, Function.update_self, hnone, Multiset.sub_zero]
      · simp only [workOf, next, Function.update_of_ne hother]

/-- The steps of a run that do something are paid for by the work it began with and by the
frames put in it. -/
theorem countP_add_credit_le (hheader : coder.KeepsHeader)
    (hreach : (system coder game).Reachable s) {schedule : List (Action ι ButtonsType)}
    (hschedule : (system coder game).Schedule s schedule) :
    schedule.countP (Brings ·) + credit game s ≤
      s.work + credit game (schedule.foldl (next coder game) s) := by
  have hpaid := TransitionSystem.Schedule.countP_le (T := system coder game)
    (J := fun s => (system coder game).Reachable s) work (credit game) Brings
    (fun s action h henabled => h.step henabled)
    (fun s action h henabled => work_next hheader (reachable_sound hheader h).inv henabled)
    (fun s action h henabled hempty => by
      obtain ⟨hwork, hcredit⟩ := not_brings_next coder game s hempty
      exact (congrArg₂ (· + ·) hwork hcredit.symm).le)
    hreach hschedule
  have hfold : (system coder game).next = next coder game := rfl
  rw [hfold] at hpaid
  omega

/-- If every read brings something, these are all its steps. -/
theorem length_add_credit_le (hheader : coder.KeepsHeader)
    {P : Lockstep ι ButtonsType → Action ι ButtonsType → Prop}
    (hbrings : ∀ s action, P s action → Brings action) (hreach : (system coder game).Reachable s)
    {schedule : List (Action ι ButtonsType)}
    (hschedule : ((system coder game).restrict P).Schedule s schedule) :
    schedule.length + credit game s ≤
      s.work + credit game (schedule.foldl (next coder game) s) := by
  have hall : schedule.countP (Brings ·) = schedule.length :=
    List.countP_eq_length.mpr fun action haction =>
      decide_eq_true (hschedule.forall_mem_of_restrict hbrings action haction)
  rw [← hall]
  exact countP_add_credit_le hheader hreach hschedule.of_restrict

omit [DecidableEq ι] [Inhabited ButtonsType] in
theorem credit_cast (s : Lockstep ι ButtonsType) :
    (credit game s : Int) = (Fintype.card ι * game.connectedPorts.length + 1) *
      (∑ other, s.framesPut other : ℕ) := by
  unfold credit
  push_cast
  rfl

/-! ### Every run -/

omit [Inhabited ButtonsType] [Fintype ι] in
/-- The others are ahead of a client only as far as they have read of it. -/
theorem Paced.exists_lead (h : Paced game s) {client : ι}
    (howns : ∃ connectedPort ∈ game.connectedPorts, game.owner connectedPort.port = client) :
    ∃ least, leastDelay game client = some least ∧
      ∀ other, (s.framesPut other : Int) ≤ s.framesPut client + (1 + least) := by
  obtain ⟨connectedPort, hconnected, howner, hleast⟩ := exists_leastDelay howns
  refine ⟨connectedPort.delayFrames, hleast, fun other => ?_⟩
  obtain ⟨frame, hcursor, hread, -⟩ := (h.pace other).cursor (List.mem_map_of_mem hconnected)
  have hahead := h.ahead other connectedPort hconnected frame hcursor
  rw [howner] at hahead
  omega

omit [DecidableEq ι] [Inhabited ButtonsType] in
/-- So the frames of all clients are bounded by those of one. -/
theorem credit_le {client : ι} {least : Int}
    (hlead : ∀ other, (s.framesPut other : Int) ≤ s.framesPut client + (1 + least)) :
    (credit game s : Int) ≤ (Fintype.card ι * game.connectedPorts.length + 1) *
      (Fintype.card ι * (s.framesPut client + (1 + least))) := by
  have hsum : ((∑ other, s.framesPut other : ℕ) : Int) ≤
      Fintype.card ι * (s.framesPut client + (1 + least)) := by
    push_cast
    calc
      ∑ other, (s.framesPut other : Int) ≤
          ∑ _other : ι, ((s.framesPut client : Int) + (1 + least)) :=
        Finset.sum_le_sum fun other _ => hlead other
      _ = Fintype.card ι * (s.framesPut client + (1 + least)) := by
        rw [Finset.sum_const, Finset.card_univ, nsmul_eq_mul]
  rw [credit_cast]
  exact Int.mul_le_mul_of_nonneg_left hsum (by positivity)

/-- A run from the start is no longer than the frames allow that a client has put. -/
theorem length_le_framesPut (hheader : coder.KeepsHeader)
    {P : Lockstep ι ButtonsType → Action ι ButtonsType → Prop}
    (hbrings : ∀ s action, P s action → Brings action) {start : Lockstep ι ButtonsType}
    (hstart : Starts game start) {schedule : List (Action ι ButtonsType)}
    (hschedule : ((system coder game).restrict P).Schedule start schedule) {client : ι}
    (howns : ∃ connectedPort ∈ game.connectedPorts, game.owner connectedPort.port = client) :
    ∃ least, leastDelay game client = some least ∧
      (schedule.length : Int) ≤ (Fintype.card ι * game.connectedPorts.length + 1) *
        (Fintype.card ι *
          ((schedule.foldl (next coder game) start).framesPut client + (1 + least))) := by
  have hinit : (system coder game).Reachable start := .init hstart
  have hpaid := length_add_credit_le hheader hbrings hinit hschedule
  have hbegin : work start = 0 := Finset.sum_eq_zero fun other _ => by
    rw [workOf, (hstart.2 other).2.1, (hstart.2 other).2.2]
    rfl
  obtain ⟨least, hleast, hlead⟩ :=
    (reachable_paced hheader (hinit.foldl hschedule.of_restrict)).exists_lead howns
  refine ⟨least, hleast, ?_⟩
  calc
    (schedule.length : Int) ≤ credit game (schedule.foldl (next coder game) start) := by
      rw [hbegin] at hpaid
      omega
    _ ≤ _ := credit_le hlead

/-- **Liveness.**  Over a reliable server, whatever the players press: every run can be
continued, and a client has put the more frames the longer the run is, whatever the order
of the steps.  Here a run has no reads that bring nothing. -/
theorem every_run_completes [Nonempty ι] (hheader : coder.KeepsHeader)
    (hlossless : coder.Lossless) (htotal : coder.Total)
    (pressed : ι → Port → Int → ButtonsType) {start : Lockstep ι ButtonsType}
    (hstart : Starts game start) {schedule : List (Action ι ButtonsType)}
    (hschedule : (workingSystem coder game pressed).Schedule start schedule) :
    (∃ action, (workingSystem coder game pressed).enabled
        (schedule.foldl (next coder game) start) action) ∧
      ∀ client,
        (∃ connectedPort ∈ game.connectedPorts, game.owner connectedPort.port = client) →
        ∃ least, leastDelay game client = some least ∧
          (schedule.length : Int) ≤ (Fintype.card ι * game.connectedPorts.length + 1) *
            (Fintype.card ι *
              ((schedule.foldl (next coder game) start).framesPut client + (1 + least))) := by
  have hinit : (workingSystem coder game pressed).Reachable start := .init hstart
  have hreliable := reachable_reliable (hinit.foldl hschedule)
  refine ⟨(reachable_flowing hheader hlossless htotal hreliable).exists_working
    (reachable_sound hheader hreliable.of_restrict) pressed, fun client howns => ?_⟩
  exact length_le_framesPut hheader (fun _ _ hworking => hworking.brings) hstart hschedule howns

/-! ### When a client has stopped -/

omit [Fintype ι] in
/-- A client whose call failed does nothing any more. -/
theorem stopped_next {client : ι} (hstopped : ¬ s.Running client)
    {action : Action ι ButtonsType} (henabled : s.enabled action) :
    ¬ (next coder game s action).Running client ∧
      (next coder game s action).framesPut client = s.framesPut client := by
  refine ⟨fun hrunning => hstopped fun call hcall => hrunning call ?_, ?_⟩
  · rw [next_net]
    exact (Network.returned_prefix_next coder s.net _ client).subset hcall
  · cases action with
    | put actor tuples writeOk =>
        have hne : client ≠ actor := by
          rintro rfl
          exact hstopped henabled.1.2
        simp only [next, Function.update_of_ne hne]
    | get actor port buttons => rfl
    | read actor outcome => rfl

omit [Fintype ι] in
theorem stopped_schedule {client : ι} {schedule : List (Action ι ButtonsType)}
    (hstopped : ¬ s.Running client)
    (hschedule : (system coder game).Schedule s schedule) :
    (schedule.foldl (next coder game) s).framesPut client = s.framesPut client := by
  induction schedule generalizing s with
  | nil => rfl
  | cons action rest ih =>
      obtain ⟨hstill, hframes⟩ :
          ¬ (next coder game s action).Running client ∧
            (next coder game s action).framesPut client = s.framesPut client :=
        stopped_next hstopped hschedule.1
      rw [List.foldl_cons, ih hstill hschedule.2, hframes]

/-- **A stopped client brings the game to rest.**  Whichever key presses the server loses or
holds back: once a call of a client has failed, no other client gets more than one frame and
the client's least delay ahead of where it stopped, so in every run from there on only so
many steps put, get or bring anything. -/
theorem stopped_client (hheader : coder.KeepsHeader) (hreach : (system coder game).Reachable s)
    {client : ι} (hstopped : ¬ s.Running client)
    (howns : ∃ connectedPort ∈ game.connectedPorts, game.owner connectedPort.port = client)
    {schedule : List (Action ι ButtonsType)}
    (hschedule : (system coder game).Schedule s schedule) :
    ∃ least, leastDelay game client = some least ∧
      (∀ other, ((schedule.foldl (next coder game) s).framesPut other : Int) ≤
        s.framesPut client + (1 + least)) ∧
      (schedule.countP (Brings ·) : Int) ≤ s.work +
        (Fintype.card ι * game.connectedPorts.length + 1) *
          (Fintype.card ι * (s.framesPut client + (1 + least)) -
            (∑ other, s.framesPut other : ℕ)) := by
  have hfinal : (system coder game).Reachable (schedule.foldl (next coder game) s) :=
    hreach.foldl hschedule
  have hframes := stopped_schedule hstopped hschedule
  obtain ⟨least, hleast, hlead⟩ := (reachable_paced hheader hfinal).exists_lead howns
  have hearned : (credit game (schedule.foldl (next coder game) s) : Int) ≤ _ := credit_le hlead
  rw [hframes] at hlead hearned
  refine ⟨least, hleast, hlead, ?_⟩
  have hpaid := countP_add_credit_le hheader hreach hschedule
  rw [Int.mul_sub, ← credit_cast]
  omega

end Steps

instance : Fintype Network.Player where
  elems := {.one, .two}
  complete := by
    intro player
    cases player with
    | one => decide
    | two => decide

/-- Player 1 runs ahead and loses the stream before player 2 has begun. -/
def streamLost : List (Action Network.Player Int) := runAhead ++ [.read .one none]

/-- Player 2 plays on, with a read that brings nothing on the way. -/
def afterLost : List (Action Network.Player Int) :=
  [.put .two [⟨2, 0, 5⟩] true, .get .two 1 0, .get .two 2 0, .put .two [⟨2, 1, 6⟩] true,
    .get .two 1 0, .read .two (some {}),
    .read .two (some { keyPress := [{ consoleId := 1, frameNumber := 1, port := 1, xAxis := 7 }] })]

theorem stopped_client_streamLost :
    ∃ least, leastDelay Network.twoPlayers .one = some least ∧
      (∀ other, ((afterLost.foldl (next integerCoder Network.twoPlayers)
          (streamLost.foldl (next integerCoder Network.twoPlayers) twoStarted)).framesPut other :
            Int) ≤ 3 + (1 + least)) ∧
      (6 : Int) ≤ (streamLost.foldl (next integerCoder Network.twoPlayers) twoStarted).work +
        (2 * 2 + 1) * (2 * (3 + (1 + least)) - 3) := by
  have hlost : (system integerCoder Network.twoPlayers).Schedule twoStarted streamLost := by
    decide
  have hinit : (system integerCoder Network.twoPlayers).Reachable twoStarted :=
    .init twoStarted_starts
  have hlater : (system integerCoder Network.twoPlayers).Schedule
      (streamLost.foldl (next integerCoder Network.twoPlayers) twoStarted) afterLost := by
    decide
  exact stopped_client integerCoder_keepsHeader (hinit.foldl hlost)
    (by decide : ¬ Running _ .one) (by decide) hlater

/-- What is pressed while player 2 catches up. -/
def catchUpPressed (_ : Network.Player) (port : Port) (frame : Int) : Int :=
  if port = 1 then 7 + frame else 5

theorem every_run_completes_catchUp :
    (∃ action, (workingSystem integerCoder Network.twoPlayers catchUpPressed).enabled
        (catchUp.foldl (next integerCoder Network.twoPlayers) twoStarted) action) ∧
      ∃ least, leastDelay Network.twoPlayers .one = some least ∧
        (10 : Int) ≤ (2 * 2 + 1) *
          (2 * ((catchUp.foldl (next integerCoder Network.twoPlayers) twoStarted).framesPut .one +
            (1 + least))) := by
  have hschedule : (workingSystem integerCoder Network.twoPlayers catchUpPressed).Schedule
      twoStarted catchUp := by
    unfold workingSystem
    decide
  obtain ⟨hlive, hlong⟩ := every_run_completes integerCoder_keepsHeader integerCoder_lossless
    integerCoder_total catchUpPressed twoStarted_starts hschedule
  exact ⟨hlive, hlong .one (by decide)⟩

end Lockstep
end Session
end Netplay
