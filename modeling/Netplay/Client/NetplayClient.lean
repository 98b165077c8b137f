import Netplay.Client.ConsoleStart

/-!
# `NetplayClient`

The client of `client.hpp`: `PlugControllers` asks the server for ports and keeps
what it grants, `MakeEventStreamHandler` builds the handler from it.  An RPC is
modelled by its response, or `none` if the call failed.

* `plugControllers_spec`: a call that returns false changes none of the ids and
  ports, one that returns true overwrites the ids and appends the ports.
* `plugAll_lastGrant_iff`: when the client holds just what the last successful
  call granted.
* `makeEventStreamHandler_isSome_iff`: when the constructor of the handler does
  not abort.
-/

namespace Netplay
namespace Client

/-- Conversion of an `int64_t` to `int`. -/
def toInt (x : Int) : Int := x.bmod (2 ^ 32)

theorem toInt_of_mem {x : Int} (hlow : -2 ^ 31 ≤ x) (hhigh : x < 2 ^ 31) : toInt x = x := by
  unfold toInt
  rw [Int.bmod_def]
  omega

theorem toInt_eq_self_iff {x : Int} : toInt x = x ↔ -2 ^ 31 ≤ x ∧ x < 2 ^ 31 := by
  constructor
  · intro h
    unfold toInt at h
    rw [Int.bmod_def] at h
    omega
  · rintro ⟨hlow, hhigh⟩
    exact toInt_of_mem hlow hhigh

/-- The `Status` of a response, of which the client knows these values. -/
inductive ResponseStatus
  | unknown
  | success
  | unspecifiedFailure
  | other (value : Int)
deriving DecidableEq

structure PlugControllerRequestPB where
  consoleId : Int
  delayFrames : Int
  romFileMd5 : String
  requestedPort1 : Option Port := none
  requestedPort2 : Option Port := none
  requestedPort3 : Option Port := none
  requestedPort4 : Option Port := none
deriving DecidableEq

structure PlugControllerResponsePB where
  status : ResponseStatus := .unknown
  consoleId : Int := 0
  clientId : Int := 0
  port : List Port := []
deriving DecidableEq

/-- The data members; `coder_` and `stub_` are parameters of what uses them. -/
structure NetplayClient where
  delayFrames : Int
  consoleId : Int
  clientId : Int
  localPorts : List Port
  timings : List TimingEvent
deriving DecidableEq

namespace NetplayClient

/-- The constructor. -/
def make (delayFrames : Int) : NetplayClient where
  delayFrames := delayFrames
  consoleId := -1
  clientId := -1
  localPorts := []
  timings := []

/-- `mutable_timings()->add_event()`. -/
def addEvent (client : NetplayClient) (event : TimingEvent) : NetplayClient :=
  { client with timings := client.timings ++ [event] }

/-- What `PlugControllers` returns, what it assigns to `*status`, the request it
sent if it came to that, and the client. -/
structure PlugControllersResult where
  ok : Bool
  status : Option ResponseStatus
  request : Option PlugControllerRequestPB
  client : NetplayClient
deriving DecidableEq

/-- The `switch` over the number of ports; `none` is its default case. -/
def plugControllerRequest (client : NetplayClient) (consoleId : Int) (romMd5 : String)
    (localPorts : List Port) : Option PlugControllerRequestPB :=
  let request : PlugControllerRequestPB :=
    { consoleId := consoleId, delayFrames := client.delayFrames, romFileMd5 := romMd5 }
  match localPorts with
  | [port1, port2, port3, port4] =>
      some { request with
        requestedPort1 := some port1
        requestedPort2 := some port2
        requestedPort3 := some port3
        requestedPort4 := some port4 }
  | [port1, port2, port3] =>
      some { request with
        requestedPort1 := some port1
        requestedPort2 := some port2
        requestedPort3 := some port3 }
  | [port1, port2] =>
      some { request with requestedPort1 := some port1, requestedPort2 := some port2 }
  | [port1] => some { request with requestedPort1 := some port1 }
  | _ => none

/-- `PlugControllers`, given the response of its RPC. -/
def plugControllers (client : NetplayClient) (consoleId : Int) (romMd5 : String)
    (localPorts : List Port) (response : Option PlugControllerResponsePB) :
    PlugControllersResult :=
  match client.plugControllerRequest consoleId romMd5 localPorts with
  | none => ⟨false, none, none, client⟩
  | some request =>
      let client := client.addEvent .plugControllerRequest
      let client := client.addEvent .plugControllerResponse
      match response with
      | none => ⟨false, none, some request, client⟩
      | some response =>
          if response.consoleId ≠ consoleId then
            ⟨false, none, some request, client⟩
          else
            ⟨true, some response.status, some request,
              { client with
                clientId := response.clientId
                localPorts := client.localPorts ++ response.port
                consoleId := consoleId }⟩

/-- `MakeEventStreamHandler`; `none` is the `std::abort` of the constructor, whose
parameters for the ids are of type `int`. -/
def makeEventStreamHandler {ButtonsType : Type*} (ports : PortEnum) (client : NetplayClient) :
    Option (EventStreamHandler ButtonsType) :=
  EventStreamHandler.construct ports (toInt client.consoleId) (toInt client.clientId)
    client.localPorts client.timings

/-! ### One call -/

/-- The arguments and the environment of one call of `PlugControllers`. -/
structure PlugCall where
  consoleId : Int
  romMd5 : String
  localPorts : List Port
  response : Option PlugControllerResponsePB
deriving DecidableEq

/-- What a client holds of a grant: console id, client id, and ports. -/
structure Grant where
  consoleId : Int
  clientId : Int
  ports : List Port
deriving DecidableEq

/-- The ids and ports that the client holds. -/
def grant (client : NetplayClient) : Grant :=
  ⟨client.consoleId, client.clientId, client.localPorts⟩

namespace PlugCall

def run (call : PlugCall) (client : NetplayClient) : PlugControllersResult :=
  client.plugControllers call.consoleId call.romMd5 call.localPorts call.response

/-- One to four ports are asked for, and the server answers for this console. -/
def Succeeds (call : PlugCall) : Prop :=
  1 ≤ call.localPorts.length ∧ call.localPorts.length ≤ 4 ∧
    ∃ response, call.response = some response ∧ response.consoleId = call.consoleId

instance (call : PlugCall) : Decidable call.Succeeds :=
  inferInstanceAs (Decidable (_ ∧ _ ∧ ∃ response ∈ call.response, _))

/-- The ports in the response. -/
def grantedPorts (call : PlugCall) : List Port :=
  match call.response with
  | none => []
  | some response => response.port

/-- The grant in the response. -/
def granted (call : PlugCall) : Grant where
  consoleId := call.consoleId
  clientId :=
    match call.response with
    | none => -1
    | some response => response.clientId
  ports := call.grantedPorts

end PlugCall

theorem plugControllerRequest_isSome_iff (client : NetplayClient) (consoleId : Int)
    (romMd5 : String) (localPorts : List Port) :
    (client.plugControllerRequest consoleId romMd5 localPorts).isSome = true ↔
      1 ≤ localPorts.length ∧ localPorts.length ≤ 4 := by
  unfold plugControllerRequest
  match localPorts with
  | [] => simp
  | [_] => simp
  | [_, _] => simp
  | [_, _, _] => simp
  | [_, _, _, _] => simp
  | _ :: _ :: _ :: _ :: _ :: _ => simp

/-- The outcomes of a call: nothing but the timing log changes, or the ids are
overwritten and the ports appended. -/
inductive PlugStep (call : PlugCall) (client : NetplayClient) : PlugControllersResult → Prop
  | failed {request : Option PlugControllerRequestPB} {client' : NetplayClient}
      (hfails : ¬ call.Succeeds) (hgrant : client'.grant = client.grant) :
      PlugStep call client ⟨false, none, request, client'⟩
  | plugged {response : PlugControllerResponsePB} {request : PlugControllerRequestPB}
      {client' : NetplayClient} (hsucceeds : call.Succeeds)
      (hresponse : call.response = some response)
      (hgrant : client'.grant =
        ⟨call.consoleId, response.clientId, client.localPorts ++ response.port⟩) :
      PlugStep call client ⟨true, some response.status, some request, client'⟩

theorem plugControllers_spec (call : PlugCall) (client : NetplayClient) :
    PlugStep call client (call.run client) := by
  have hlength := client.plugControllerRequest_isSome_iff call.consoleId call.romMd5
    call.localPorts
  unfold PlugCall.run plugControllers
  cases hrequest : client.plugControllerRequest call.consoleId call.romMd5 call.localPorts with
  | none =>
      refine .failed ?_ rfl
      rintro ⟨hone, hfour, -⟩
      have hsome := hlength.mpr ⟨hone, hfour⟩
      rw [hrequest] at hsome
      cases hsome
  | some request =>
      rw [hrequest] at hlength
      obtain ⟨hone, hfour⟩ := hlength.mp rfl
      cases hresponse : call.response with
      | none =>
          refine .failed ?_ rfl
          rintro ⟨-, -, response, hsome, -⟩
          rw [hresponse] at hsome
          cases hsome
      | some response =>
          by_cases hid : response.consoleId = call.consoleId
          · simp only [hid, ne_eq, not_true_eq_false, if_false]
            exact .plugged ⟨hone, hfour, response, hresponse, hid⟩ hresponse rfl
          · simp only [hid, ne_eq, not_false_eq_true, if_true]
            refine .failed ?_ rfl
            rintro ⟨-, -, _, hsome, hsame⟩
            rw [hresponse] at hsome
            cases hsome
            exact hid hsame

/-- A request is sent whenever there is one for this number of ports. -/
theorem plugControllers_request (client : NetplayClient) (consoleId : Int) (romMd5 : String)
    (localPorts : List Port) (response : Option PlugControllerResponsePB) :
    (client.plugControllers consoleId romMd5 localPorts response).request =
      client.plugControllerRequest consoleId romMd5 localPorts := by
  unfold plugControllers
  cases client.plugControllerRequest consoleId romMd5 localPorts with
  | none => rfl
  | some request =>
      cases response with
      | none => rfl
      | some response =>
          simp only
          split_ifs
          · rfl
          · rfl

theorem PlugCall.run_ok_iff (call : PlugCall) (client : NetplayClient) :
    (call.run client).ok = true ↔ call.Succeeds := by
  have hspec := plugControllers_spec call client
  generalize call.run client = result at hspec
  cases hspec with
  | failed hfails _ => simp [hfails]
  | plugged hsucceeds _ _ => simp [hsucceeds]

/-! ### Histories of calls -/

/-- The client after a history of calls. -/
def plugAll (client : NetplayClient) (calls : List PlugCall) : NetplayClient :=
  calls.foldl (fun client call => (call.run client).client) client

/-- What the last call of the history that returned true granted, or the grant
there was before it. -/
def lastGrant : NetplayClient → Grant → List PlugCall → Grant
  | _, last, [] => last
  | client, last, call :: calls =>
      lastGrant (call.run client).client
        (if (call.run client).ok then call.granted else last) calls

theorem plugAll_snoc (client : NetplayClient) (calls : List PlugCall) (call : PlugCall) :
    plugAll client (calls ++ [call]) = (call.run (plugAll client calls)).client := by
  simp [plugAll, List.foldl_append]

theorem lastGrant_snoc (client : NetplayClient) (last : Grant) (calls : List PlugCall)
    (call : PlugCall) :
    lastGrant client last (calls ++ [call]) =
      if call.Succeeds then call.granted else lastGrant client last calls := by
  induction calls generalizing client last with
  | nil =>
      by_cases hsucceeds : call.Succeeds
      · simp [lastGrant, (call.run_ok_iff client).mpr hsucceeds, hsucceeds]
      · have hnot : (call.run client).ok = false := by
          rw [← Bool.not_eq_true, call.run_ok_iff]
          exact hsucceeds
        simp [lastGrant, hnot, hsucceeds]
  | cons first calls ih => exact ih _ _

/-- What one call makes of the client, told by whether it succeeds. -/
theorem PlugCall.run_grant (call : PlugCall) (client : NetplayClient) :
    (call.run client).client.grant =
      if call.Succeeds then
        { call.granted with ports := client.localPorts ++ call.grantedPorts }
      else client.grant := by
  have hspec := plugControllers_spec call client
  generalize call.run client = result at hspec
  cases hspec with
  | failed hfails hgrant => rw [if_neg hfails, hgrant]
  | plugged hsucceeds hresponse hgrant =>
      rw [if_pos hsucceeds, hgrant, PlugCall.granted, PlugCall.grantedPorts, hresponse]

/-- Ports are never given back. -/
theorem localPorts_prefix (client : NetplayClient) (calls : List PlugCall) :
    client.localPorts <+: (plugAll client calls).localPorts := by
  induction calls using List.reverseRecOn with
  | nil => exact List.prefix_rfl
  | append_singleton calls call ih =>
      rw [plugAll_snoc]
      have hgrant := congrArg Grant.ports (call.run_grant (plugAll client calls))
      change ((call.run (plugAll client calls)).client).localPorts = _ at hgrant
      rw [hgrant]
      split_ifs
      · exact ih.trans (List.prefix_append _ _)
      · exact ih

/-- The last grant comes from some call of the history, with failures after it. -/
theorem lastGrant_eq (client : NetplayClient) (last : Grant) (calls : List PlugCall) :
    lastGrant client last calls = last ∨
      ∃ before call after, calls = before ++ call :: after ∧ call.Succeeds ∧
        lastGrant client last calls = call.granted := by
  induction calls using List.reverseRecOn with
  | nil => exact Or.inl rfl
  | append_singleton calls call ih =>
      rw [lastGrant_snoc]
      by_cases hsucceeds : call.Succeeds
      · rw [if_pos hsucceeds]
        exact Or.inr ⟨calls, call, [], rfl, hsucceeds, rfl⟩
      · rw [if_neg hsucceeds]
        rcases ih with hlast | ⟨before, earlier, after, hcalls, hearlier, hlast⟩
        · exact Or.inl hlast
        · refine Or.inr ⟨before, earlier, after ++ [call], ?_, hearlier, hlast⟩
          rw [hcalls, List.append_assoc, List.cons_append]

/-- **A client keeps the ports of every grant.**  It holds just what the last
successful call granted, after every call of the history, exactly if no
successful call but the last granted a port.  A call that returns false changes
neither the ids nor the ports. -/
theorem plugAll_lastGrant_iff (delayFrames : Int) (calls : List PlugCall) :
    ((∀ done, done <+: calls →
        (plugAll (make delayFrames) done).grant =
          lastGrant (make delayFrames) ⟨-1, -1, []⟩ done) ↔
      ∀ before call after, calls = before ++ call :: after → call.Succeeds →
        (∃ later ∈ after, later.Succeeds) → call.grantedPorts = []) ∧
      ∀ done (call : PlugCall), (call.run (plugAll (make delayFrames) done)).ok = false →
        (call.run (plugAll (make delayFrames) done)).client.grant =
          (plugAll (make delayFrames) done).grant := by
  refine ⟨⟨?_, ?_⟩, ?_⟩
  · rintro hlast before call after rfl hsucceeds ⟨later, hmem, hlater⟩
    obtain ⟨between, rest, rfl⟩ := List.append_of_mem hmem
    -- after the later grant the client holds its ports alone, so it held none before
    have hfirst := congrArg Grant.ports (hlast (before ++ [call]) ⟨between ++ later :: rest, by
      simp⟩)
    have hsecond := congrArg Grant.ports (hlast ((before ++ [call] ++ between) ++ [later])
      ⟨rest, by simp⟩)
    rw [lastGrant_snoc, if_pos hsucceeds] at hfirst
    rw [lastGrant_snoc, if_pos hlater, plugAll_snoc, PlugCall.run_grant, if_pos hlater] at hsecond
    have hnone : (plugAll (make delayFrames) (before ++ [call] ++ between)).localPorts = [] :=
      List.append_left_eq_self.mp hsecond
    have hprefix := localPorts_prefix (plugAll (make delayFrames) (before ++ [call])) between
    rw [show plugAll (plugAll (make delayFrames) (before ++ [call])) between =
      plugAll (make delayFrames) (before ++ [call] ++ between) from List.foldl_append.symm,
      hnone, List.prefix_nil] at hprefix
    exact hfirst.symm.trans hprefix
  · intro honly done hprefix
    induction done using List.reverseRecOn with
    | nil => rfl
    | append_singleton done call ih =>
        have hdone := ih ((List.prefix_append done [call]).trans hprefix)
        obtain ⟨after, hcalls⟩ := hprefix
        rw [plugAll_snoc, lastGrant_snoc, PlugCall.run_grant]
        by_cases hsucceeds : call.Succeeds
        · rw [if_pos hsucceeds, if_pos hsucceeds]
          have hnone : (plugAll (make delayFrames) done).localPorts = [] := by
            have hports := congrArg Grant.ports hdone
            change (plugAll (make delayFrames) done).localPorts = _ at hports
            rw [hports]
            rcases lastGrant_eq (make delayFrames) ⟨-1, -1, []⟩ done with
              hlast | ⟨before, earlier, between, rfl, hearlier, hlast⟩
            · rw [hlast]
            · rw [hlast]
              refine honly before earlier (between ++ call :: after) ?_ hearlier
                ⟨call, by simp, hsucceeds⟩
              simp [← hcalls]
          rw [hnone, List.nil_append]
          rfl
        · rw [if_neg hsucceeds, if_neg hsucceeds]
          exact hdone
  · intro done call hfails
    rw [call.run_grant, if_neg]
    rw [← call.run_ok_iff (plugAll (make delayFrames) done), hfails]
    exact Bool.false_ne_true

/-- The player is granted port 1, and port 2 after coming back. -/
def plugTwice : List PlugCall :=
  [⟨1, "", [5], some { status := .success, consoleId := 1, clientId := 7, port := [1] }⟩,
    ⟨1, "", [5], some { status := .success, consoleId := 1, clientId := 8, port := [2] }⟩]

/-- After a second grant the client still holds the ports of the first. -/
theorem plugAll_not_lastGrant :
    ¬ ∀ (delayFrames : Int) (calls : List PlugCall), ∀ done, done <+: calls →
      (plugAll (make delayFrames) done).grant =
        lastGrant (make delayFrames) ⟨-1, -1, []⟩ done := by
  intro h
  have hlast := h 0 plugTwice plugTwice List.prefix_rfl
  have hdiffer : (plugAll (make 0) plugTwice).grant ≠
      lastGrant (make 0) ⟨-1, -1, []⟩ plugTwice := by
    decide
  exact hdiffer hlast

/-! ### The handler made from a grant -/

/-- The handler that the constructor makes if it does not abort. -/
def freshHandler {ButtonsType : Type*} (consoleId clientId : Int) (localPorts : List Port)
    (timings : List TimingEvent) : EventStreamHandler ButtonsType where
  consoleId := consoleId
  clientId := clientId
  localPorts := Std.ExtTreeSet.ofList localPorts
  timings := timings
  inputQueues := ∅
  status := .notYetStarted

/-- What the constructor asks of its arguments. -/
structure Constructible (ports : PortEnum) (consoleId clientId : Int) (localPorts : List Port) :
    Prop where
  consoleId_pos : 0 < consoleId
  clientId_pos : 0 < clientId
  length_le : localPorts.length ≤ 4
  nodup : localPorts.Nodup
  portAny_not_mem : ports.portAny ∉ localPorts

/-- The constructor finds repetitions by comparing sizes. -/
theorem construct_eq_some_iff {ButtonsType : Type*} {ports : PortEnum} {consoleId clientId : Int}
    {localPorts : List Port} {timings : List TimingEvent}
    {handler : EventStreamHandler ButtonsType} :
    EventStreamHandler.construct ports consoleId clientId localPorts timings = some handler ↔
      Constructible ports consoleId clientId localPorts ∧
        handler = freshHandler consoleId clientId localPorts timings := by
  have hsize : (Std.ExtTreeSet.ofList localPorts).size ≠ localPorts.length ↔
      ¬ localPorts.Nodup :=
    OrderedSet.size_ofList_eq_length_iff.not
  simp only [EventStreamHandler.construct, Option.ite_none_left_eq_some, Option.some.injEq,
    hsize]
  constructor
  · rintro ⟨hconsole, hclient, hlength, hnodup, hany, rfl⟩
    exact ⟨⟨by omega, by omega, by omega, not_not.mp hnodup, hany⟩, rfl⟩
  · rintro ⟨⟨hconsole, hclient, hlength, hnodup, hany⟩, rfl⟩
    exact ⟨by omega, by omega, by omega, not_not.mpr hnodup, hany, rfl⟩

theorem grant_eq_iff {client : NetplayClient} {consoleId clientId : Int}
    {localPorts : List Port} :
    client.grant = ⟨consoleId, clientId, localPorts⟩ ↔
      client.consoleId = consoleId ∧ client.clientId = clientId ∧
        client.localPorts = localPorts := by
  rw [grant, Grant.mk.injEq]

/-- The handler of a client is made from what the client holds. -/
theorem makeEventStreamHandler_eq_some_iff {ButtonsType : Type*} {ports : PortEnum}
    {client : NetplayClient} {consoleId clientId : Int} {localPorts : List Port}
    (hgrant : client.grant = ⟨consoleId, clientId, localPorts⟩)
    {handler : EventStreamHandler ButtonsType} :
    client.makeEventStreamHandler ports = some handler ↔
      Constructible ports (toInt consoleId) (toInt clientId) localPorts ∧
        handler = freshHandler (toInt consoleId) (toInt clientId) localPorts client.timings := by
  obtain ⟨rfl, rfl, rfl⟩ := grant_eq_iff.mp hgrant
  exact construct_eq_some_iff

/-- The response grants what the constructor accepts. -/
def Usable (ports : PortEnum) (consoleId : Int) (response : PlugControllerResponsePB) : Prop :=
  0 < toInt consoleId ∧ 0 < toInt response.clientId ∧ response.port.length ≤ 4 ∧
    response.port.Nodup ∧ ports.portAny ∉ response.port

instance (ports : PortEnum) (consoleId : Int) (response : PlugControllerResponsePB) :
    Decidable (Usable ports consoleId response) :=
  inferInstanceAs (Decidable (_ ∧ _))

theorem usable_iff {ports : PortEnum} {consoleId : Int} {response : PlugControllerResponsePB} :
    Usable ports consoleId response ↔
      Constructible ports (toInt consoleId) (toInt response.clientId) response.port := by
  constructor
  · rintro ⟨hconsole, hclient, hlength, hnodup, hany⟩
    exact ⟨hconsole, hclient, hlength, hnodup, hany⟩
  · rintro ⟨hconsole, hclient, hlength, hnodup, hany⟩
    exact ⟨hconsole, hclient, hlength, hnodup, hany⟩

/-- **When a reply of the server aborts the emulator.**  `PlugControllers` lets any
reply for the right console through; the constructor that comes next survives
exactly those with positive ids (as `int`s) and at most four different ports, none
of them `PORT_ANY`. -/
theorem makeEventStreamHandler_isSome_iff {ButtonsType : Type*} (ports : PortEnum)
    (delayFrames : Int) (call : PlugCall) (hok : (call.run (make delayFrames)).ok = true) :
    ((call.run (make delayFrames)).client.makeEventStreamHandler ports :
        Option (EventStreamHandler ButtonsType)).isSome = true ↔
      ∃ response, call.response = some response ∧ Usable ports call.consoleId response := by
  have hspec := plugControllers_spec call (make delayFrames)
  generalize call.run (make delayFrames) = result at hok hspec
  cases hspec with
  | failed _ _ => cases hok
  | @plugged response _ client' _ hresponse hgrant =>
      have hmade (handler : EventStreamHandler ButtonsType) :=
        @makeEventStreamHandler_eq_some_iff _ ports _ _ _ _ hgrant handler
      simp only [Option.isSome_iff_exists, hmade, hresponse, Option.some.injEq,
        exists_and_left, exists_eq_left', exists_eq, and_true]
      exact usable_iff.symm

/-- A request for any port of console 1, answered with port 1. -/
def plugPortOne : PlugCall :=
  ⟨1, "", [5], some { status := .success, consoleId := 1, clientId := 7, port := [1] }⟩

theorem makeEventStreamHandler_isSome_plugPortOne :
    ((plugPortOne.run (make 0)).client.makeEventStreamHandler EventStreamHandler.portNumbers :
      Option (EventStreamHandler Int)).isSome = true :=
  (makeEventStreamHandler_isSome_iff EventStreamHandler.portNumbers 0 plugPortOne (by decide)).mpr
    ⟨_, rfl, by decide⟩

/-- The server refuses: no client id and no ports. -/
def plugRefused : PlugCall :=
  ⟨1, "", [5], some { status := .unspecifiedFailure, consoleId := 1 }⟩

/-- A refusal lets `PlugControllers` return true and the constructor abort. -/
theorem makeEventStreamHandler_aborts :
    ¬ ∀ (ports : PortEnum) (delayFrames : Int) (call : PlugCall),
      (call.run (make delayFrames)).ok = true →
      ((call.run (make delayFrames)).client.makeEventStreamHandler ports :
        Option (EventStreamHandler Int)).isSome = true := by
  intro h
  have habort : (plugRefused.run (make 0)).client.makeEventStreamHandler
      EventStreamHandler.portNumbers = (none : Option (EventStreamHandler Int)) := by
    decide
  have hsome := h EventStreamHandler.portNumbers 0 plugRefused (by decide)
  rw [habort] at hsome
  cases hsome

end NetplayClient

end Client
end Netplay
