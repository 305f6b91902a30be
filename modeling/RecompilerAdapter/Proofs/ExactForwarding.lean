/-
Module: RecompilerAdapter.Proofs.ExactForwarding
Purpose: Forwarding is exact. Whatever an engine asks through the bridge of a wrapper is answered by one
  call of the method of its host object that is meant for the request, with the operands as they are; a
  whole sequence of requests is answered, changes the host and calls its methods just as if the methods
  were called directly. Where the table has no entry for the read-only query, that query alone is answered
  without anybody being called.
Trusted boundary: none
Main exports: MethodCall, HostCallbacks.serve, Forwarded, ForwardsAs, ExactForwarding,
  HostCallbacks.forward_serve
-/
import RecompilerAdapter.Proofs.HandleIdentity
import RecompilerAdapter.Proofs.ObliviousRuns

namespace RecompilerAdapter

variable {σ ν : Type} {world other : World σ ν}

/-! ### Sequences of requests -/

/-- A request with its answer. -/
abbrev Answered : Type :=
  Σ request : HostRequest, request.Answer

/-- Makes requests one after the other. -/
def askAll (serve : (request : HostRequest) → Exec σ ν request.Answer) :
    List HostRequest → Exec σ ν (List Answered)
  | [] => return []
  | request :: requests => do
    let answer ← serve request
    let answers ← askAll serve requests
    return ⟨request, answer⟩ :: answers

/-! ### Calls of methods -/

/-- A call of a method of a host object. The request tells the method and its arguments; the two
trap methods are also told the wrapper. -/
structure MethodCall where
  self : UserData
  wrapper : Option Handle
  request : HostRequest
deriving Repr, DecidableEq

/-- The call that serves a request. Only supervisor calls and exceptions are given the handle, since
only their methods take the wrapper. -/
def HostRequest.call (self : UserData) (handle : Handle) : HostRequest → MethodCall
  | .supervisorCall number => ⟨self, some handle, .supervisorCall number⟩
  | .exceptionRaised pc condition => ⟨self, some handle, .exceptionRaised pc condition⟩
  | request => ⟨self, none, request⟩

namespace HostCallbacks

/-- The host whose methods note that they are called before they do anything else. The note carries
the receiver and all arguments, so the notes tell who was called with what. -/
def noting (tell : MethodCall → ν) (host : HostCallbacks σ ν) : HostCallbacks σ ν where
  read self width vaddr :=
    .record (tell ⟨self, none, .read width vaddr⟩) (host.read self width vaddr)
  write self width vaddr value :=
    .record (tell ⟨self, none, .write width vaddr value⟩) (host.write self width vaddr value)
  isReadOnly self vaddr := .record (tell ⟨self, none, .isReadOnly vaddr⟩) (host.isReadOnly self vaddr)
  supervisorCall self handle number :=
    .record (tell ⟨self, some handle, .supervisorCall number⟩) (host.supervisorCall self handle number)
  exceptionRaised self handle pc condition :=
    .record (tell ⟨self, some handle, .exceptionRaised pc condition⟩)
      (host.exceptionRaised self handle pc condition)
  addTicks self ticks := .record (tell ⟨self, none, .addTicks ticks⟩) (host.addTicks self ticks)
  ticksRemaining self := .record (tell ⟨self, none, .ticksRemaining⟩) (host.ticksRemaining self)

theorem noting_answer (tell : MethodCall → ν) (host : HostCallbacks σ ν) (self : UserData)
    (handle : Handle) (request : HostRequest) :
    (host.noting tell).answer self handle request =
      .record (tell (request.call self handle)) (host.answer self handle request) := by
  cases request <;> rfl

/-- The table of the host, without an entry for the read-only query. The entry is optional, and
without it nothing is read-only. -/
def unqueried (host : HostCallbacks σ ν) : CallbackTable σ ν :=
  { host.table with isReadOnly := none }

/-- Calls the method for a request directly. -/
def serve (host : HostCallbacks σ ν) (perform : Performer σ ν) (self : UserData) (handle : Handle)
    (request : HostRequest) : Exec σ ν request.Answer :=
  (host.answer self handle request).exec perform

theorem serve_noting (tell : MethodCall → ν) (host : HostCallbacks σ ν) (perform : Performer σ ν)
    (self : UserData) (handle : Handle) (request : HostRequest) :
    (host.noting tell).serve perform self handle request = (do
      Exec.emit (.note (tell (request.call self handle)))
      host.serve perform self handle request) := by
  rw [serve, noting_answer]
  rfl

/-- Calls the method for a request directly, but none for the read-only query: nothing is
read-only. -/
def serveUnqueried (host : HostCallbacks σ ν) (perform : Performer σ ν) (self : UserData)
    (handle : Handle) : (request : HostRequest) → Exec σ ν request.Answer
  | .isReadOnly _ => return false
  | request => host.serve perform self handle request

end HostCallbacks

/-! ### Histories of forwarded calls -/

/-- The events with which a call through a bridge begins: the entry is called with the handle, and
recovers the object behind it. -/
def CallbackBridge.opening (slot : HandleSlot) (handle : Handle) (object : UserData)
    (request : HostRequest) : List (Event ν) :=
  [.calling slot request true, .requested handle request, .acting .direct handle .userData,
    .acted .direct handle .userData (.userData object)]

/-- What is told of calls through a bridge, and what is told of the same calls when they are made
directly: the same of each call, but for the events with which the bridge begins and ends it. -/
inductive Framed (slot : HandleSlot) (handle : Handle) (object : UserData) :
    List Answered → List (Event ν) → List (Event ν) → Prop where
  | nil : Framed slot handle object [] [] []
  | call {request : HostRequest} {answer : request.Answer} {events : List (Event ν)}
      {answers : List Answered} {told direct : List (Event ν)}
      (rest : Framed slot handle object answers told direct) :
      Framed slot handle object (⟨request, answer⟩ :: answers)
        (CallbackBridge.opening slot handle object request ++ events ++
          .answered handle request (request.report answer) :: told) (events ++ direct)
  /-- The entry for the query is missing. -/
  | query {vaddr : UInt32} {answers : List Answered} {told direct : List (Event ν)}
      (rest : Framed slot handle object answers told direct) :
      Framed slot handle object (⟨.isReadOnly vaddr, false⟩ :: answers)
        (.calling slot (.isReadOnly vaddr) false :: told) direct

/-- Requests through a bridge in `world`, and the same requests made directly after `history`, end
alike: with the same answers or for the same reason, and in the same state but for the events of the
bridge. -/
inductive Forwarded (slot : HandleSlot) (handle : Handle) (object : UserData) (world : World σ ν)
    (history : List (Event ν)) (requests : List HostRequest) :
      EStateM.Result Stop (World σ ν) (List Answered) →
        EStateM.Result Stop (World σ ν) (List Answered) → Prop where
  | completed {answers : List Answered} {after : World σ ν} {told direct : List (Event ν)}
      (requested : answers.map Sigma.fst = requests)
      (framed : Framed slot handle object answers told direct)
      (history_eq : after.history = world.history ++ told) :
      Forwarded slot handle object world history requests
        (.ok answers after) (.ok answers (after.retold (history ++ direct)))
  | stopped {answers : List Answered} {request : HostRequest} {rest : List HostRequest} {stop : Stop}
      {after : World σ ν} {told direct events : List (Event ν)}
      (requested : answers.map Sigma.fst ++ request :: rest = requests)
      (framed : Framed slot handle object answers told direct)
      (history_eq : after.history = world.history ++
        (told ++ (CallbackBridge.opening slot handle object request ++ events))) :
      Forwarded slot handle object world history requests
        (.error stop after) (.error stop (after.retold (history ++ (direct ++ events))))

/-- What the caller notes. -/
def Event.note? : Event ν → Option ν
  | .note remark => some remark
  | _ => none

theorem Framed.notes {slot : HandleSlot} {handle : Handle} {object : UserData} {answers : List Answered}
    {told direct : List (Event ν)} (framed : Framed slot handle object answers told direct) :
    told.filterMap Event.note? = direct.filterMap Event.note? := by
  induction framed with
  | nil => rfl
  | call rest ih => simp [CallbackBridge.opening, List.filterMap_cons, Event.note?, ih]
  | query rest ih => simpa [List.filterMap_cons, Event.note?] using ih

/-! ### One call -/

/-- The slot is bound to the handle, and the object is the context of the wrapper behind it. -/
structure Linked (world : World σ ν) (slot : HandleSlot) (handle : Handle) (object : UserData) :
    Prop where
  nested : Nested world
  slot : world.slots.get? slot = some handle
  present : ∃ wrapper, world.wrappers.get? handle = some wrapper ∧ wrapper.userData = object

section

variable {slot : HandleSlot} {handle : Handle} {object : UserData}

theorem Linked.retold (linked : Linked world slot handle object) {history : List (Event ν)}
    (runs : openRuns history = openRuns world.history) :
    Linked (world.retold history) slot handle object where
  nested := linked.nested.of_same (by simpa using runs) fun _ later found => ⟨later, found, rfl⟩
  slot := linked.slot
  present := linked.present

theorem Linked.moves {after : World σ ν} (linked : Linked world slot handle object)
    (moves : Moves world after) : Linked after slot handle object where
  nested := moves.nested linked.nested
  slot := moves.steady.slots ▸ linked.slot
  present := by
    obtain ⟨wrapper, present, isObject⟩ := linked.present
    obtain ⟨later, found, same⟩ := moves.steady.find present
    exact ⟨later, found, (congrArg Prod.fst same).trans isObject⟩

/-- One call through a bridge in `world`, and the same call made directly after `history`, end
alike. The bridge tells of the call before and after it; the events of the method itself are the
same on both sides. -/
inductive ForwardedCall (slot : HandleSlot) (handle : Handle) (object : UserData) (world : World σ ν)
    (history : List (Event ν)) (request : HostRequest) : EStateM.Result Stop (World σ ν) request.Answer →
      EStateM.Result Stop (World σ ν) request.Answer → Prop where
  | completed {answer : request.Answer} {after : World σ ν} {events : List (Event ν)}
      (still : Linked after slot handle object) (told : after.history = world.history ++
        (CallbackBridge.opening slot handle object request ++ events ++
          [.answered handle request (request.report answer)])) :
      ForwardedCall slot handle object world history request (.ok answer after)
        (.ok answer (after.retold (history ++ events)))
  | stopped {stop : Stop} {after : World σ ν} {events : List (Event ν)}
      (told : after.history =
        world.history ++ (CallbackBridge.opening slot handle object request ++ events)) :
      ForwardedCall slot handle object world history request (.error stop after)
        (.error stop (after.retold (history ++ events)))

/-- A call through a bridge first tells that it is made and recovers the host object. Then it calls
the method. -/
theorem HostCallbacks.forward_called (host : HostCallbacks σ ν) {table : CallbackTable σ ν}
    (linked : Linked world slot handle object) (bound : Nat) {request : HostRequest}
    (served : table.entry? request = some fun handle =>
      withSelf handle fun self => host.answer self handle request) :
    CallbackBridge.forward (perform (bound + 1)) ⟨table, slot⟩ request world =
      (do
        let answer ← host.serve (perform (bound + 1)) object handle request
        Exec.emit (.answered handle request (request.report answer))
        return answer : Exec σ ν request.Answer)
        (world.retold (world.history ++ CallbackBridge.opening slot handle object request)) := by
  obtain ⟨wrapper, present, rfl⟩ := linked.present
  rw [← World.recordAll_eq_retold]
  exact (CallbackBridge.forward_bound linked.slot _ served).trans
    (Exec.bind_congr_first (withSelf_exec (by simpa using present) _ bound))

/-- A call through a bridge is a call of the method of the host object. The method is called from
another history, which it does not notice. -/
theorem HostCallbacks.forward_serve (host : HostCallbacks σ ν) {table : CallbackTable σ ν}
    (linked : Linked world slot handle object) (history : List (Event ν)) (bound : Nat)
    {request : HostRequest} (served : table.entry? request = some fun handle =>
      withSelf handle fun self => host.answer self handle request) :
    ForwardedCall slot handle object world history request
      (CallbackBridge.forward (perform (bound + 1)) ⟨table, slot⟩ request world)
      (host.serve (perform (bound + 1)) object handle request (world.retold history)) := by
  -- The bridge has told of the request before it calls the method, and the method does not look
  -- back. So the direct call may be compared as if it had started at the same place.
  let method := host.serve (perform (bound + 1)) object handle request
  let start := world.retold (world.history ++ CallbackBridge.opening slot handle object request)
  have startLinked : Linked start slot handle object :=
    linked.retold (by simp [CallbackBridge.opening, openRuns_append, Event.nest])
  have proceeds : method.Proceeds (openRuns start.history) start fun _ _ => True :=
    Activity.exec_proceeds (perform_proceeds (bound + 1)) _ startLinked.nested rfl
  have oblivious : method.Oblivious := Activity.exec_oblivious (perform_oblivious (bound + 1)) _
  rw [host.forward_called linked bound served]
  rcases (oblivious _ _ _ _ (World.Apart.of_retold start history)).cases with
    ⟨answer, after, _, _, ends, endsDirectly, rfl, events, told, rfl⟩ |
    ⟨stop, after, _, ends, endsDirectly, events, told, rfl⟩
  · let finished := after.record (.answered handle request (request.report answer))
    have still : Linked finished slot handle object := by
      have isFinished : finished = after.retold _ := World.record_eq_retold _ _
      rw [isFinished]
      exact (startLinked.moves (proceeds.of_completed ends).1.moves).retold (by simp [Event.nest])
    have returned : (method >>= fun answer => do
        Exec.emit (.answered handle request (request.report answer))
        return answer : Exec σ ν request.Answer) start = .ok answer finished :=
      Exec.bind_of_ok ends
    have direct : host.serve (perform (bound + 1)) object handle request
        (world.retold history) = .ok answer (finished.retold (history ++ events)) := endsDirectly
    rw [returned, direct]
    exact .completed still (by simp [finished, told, start])
  · have direct : host.serve (perform (bound + 1)) object handle request
        (world.retold history) = .error stop (after.retold (history ++ events)) := endsDirectly
    rw [Exec.bind_of_error ends, direct]
    exact .stopped (by simp [told, start])

/-- A query without an entry is answered at once. -/
theorem CallbackBridge.forward_query {bridge : CallbackBridge σ ν} {vaddr : UInt32}
    (missing : bridge.table.isReadOnly = none) (perform : Performer σ ν) (world : World σ ν) :
    bridge.forward perform (.isReadOnly vaddr) world =
      .ok false (world.record (.calling bridge.slot (.isReadOnly vaddr) false)) := by
  have noEntry : bridge.table.entry? (.isReadOnly vaddr) = none := by
    simp [CallbackTable.entry?, missing]
  unfold forward
  rw [noEntry]
  rfl

/-! ### Sequences of calls -/

/-- How a table and calls made directly serve a request: by the method of the host object, or, if it
is a query without an entry, by nobody. -/
inductive ServedAlike (host : HostCallbacks σ ν) (table : CallbackTable σ ν) (perform : Performer σ ν)
    (object : UserData) (handle : Handle) (direct : (request : HostRequest) → Exec σ ν request.Answer) :
    HostRequest → Prop where
  | method {request : HostRequest}
      (entry : table.entry? request = some fun handle =>
        HostCallbacks.withSelf handle fun self => host.answer self handle request)
      (same : direct request = host.serve perform object handle request) :
      ServedAlike host table perform object handle direct request
  | query {vaddr : UInt32} (missing : table.isReadOnly = none)
      (same : direct (.isReadOnly vaddr) = pure false) :
      ServedAlike host table perform object handle direct (.isReadOnly vaddr)

theorem HostCallbacks.servedAlike_table (host : HostCallbacks σ ν) (perform : Performer σ ν)
    (object : UserData) (handle : Handle) (request : HostRequest) :
    ServedAlike host host.table perform object handle (host.serve perform object handle) request :=
  .method (host.table_serves request) rfl

theorem HostCallbacks.servedAlike_unqueried (host : HostCallbacks σ ν) (perform : Performer σ ν)
    (object : UserData) (handle : Handle) (request : HostRequest) :
    ServedAlike host host.unqueried perform object handle (host.serveUnqueried perform object handle)
      request := by
  cases request with
  | isReadOnly vaddr => exact .query rfl rfl
  | read width | write width => exact .method (by cases width <;> rfl) rfl
  | _ => exact .method rfl rfl

section

variable {slot : HandleSlot} {handle : Handle} {object : UserData}
  {request : HostRequest} {requests : List HostRequest} {answer : request.Answer}
  {middle : World σ ν} {history : List (Event ν)}

/-- A request that is answered comes before the others. What is told of it is put in front on both
sides, framed only on the side of the bridge. -/
theorem Forwarded.cons {forward direct : (request : HostRequest) → Exec σ ν request.Answer}
    {own events : List (Event ν)}
    (asked : forward request world = .ok answer middle)
    (askedDirectly : direct request (world.retold history) =
      .ok answer (middle.retold (history ++ events)))
    (told : middle.history = world.history ++ own)
    (frames : ∀ {answers told direct}, Framed slot handle object answers told direct →
      Framed slot handle object (⟨request, answer⟩ :: answers) (own ++ told) (events ++ direct))
    (rest : Forwarded slot handle object middle (history ++ events) requests
      (askAll forward requests middle) (askAll direct requests (middle.retold (history ++ events)))) :
    Forwarded slot handle object world history (request :: requests)
      (askAll forward (request :: requests) world)
      (askAll direct (request :: requests) (world.retold history)) := by
  unfold askAll
  rw [Exec.bind_of_ok asked, Exec.bind_of_ok askedDirectly]
  generalize ends : askAll forward requests middle = first at rest
  generalize endsDirectly : askAll direct requests (middle.retold (history ++ events)) = second at rest
  cases rest with
  | completed requested framed extended =>
    rw [Exec.bind_of_ok ends, Exec.bind_of_ok endsDirectly, List.append_assoc]
    exact .completed (by simp [requested]) (frames framed) (by simp [extended, told])
  | @stopped answers last unasked _ _ _ _ _ requested framed extended =>
    have all : List.map Sigma.fst (⟨request, answer⟩ :: answers : List Answered) ++ last :: unasked =
        request :: requests := congrArg (request :: ·) requested
    rw [Exec.bind_of_error ends, Exec.bind_of_error endsDirectly, List.append_assoc,
      ← List.append_assoc events]
    exact .stopped all (frames framed) (by simp [extended, told])

end

/-- A sequence of calls through a bridge is the sequence of the calls that serve it. By induction on
the requests; the histories part further with each of them. -/
theorem forwarded_askAll {host : HostCallbacks σ ν} {table : CallbackTable σ ν} {bound : Nat}
    {direct : (request : HostRequest) → Exec σ ν request.Answer}
    (served : ∀ request, ServedAlike host table (perform (bound + 1)) object handle direct request)
    (linked : Linked world slot handle object) (history : List (Event ν))
    (requests : List HostRequest) :
    Forwarded slot handle object world history requests
      (askAll (CallbackBridge.forward (perform (bound + 1)) ⟨table, slot⟩) requests world)
      (askAll direct requests (world.retold history)) := by
  induction requests generalizing world history with
  | nil =>
    have nothing : askAll direct [] (world.retold history) = .ok [] (world.retold (history ++ [])) := by
      rw [List.append_nil]
      rfl
    rw [nothing]
    exact .completed rfl .nil (List.append_nil _).symm
  | cons request requests ih =>
    cases served request with
    | @method request entry same =>
      have call := host.forward_serve linked history bound entry
      rw [← same] at call
      generalize asked : CallbackBridge.forward (perform (bound + 1)) ⟨table, slot⟩ request world = first
        at call
      generalize askedDirectly : direct request (world.retold history) = second at call
      cases call with
      | completed still told =>
        exact .cons asked askedDirectly told
          (fun framed => by simpa using Framed.call framed) (ih still _)
      | stopped told =>
        unfold askAll
        rw [Exec.bind_of_error asked, Exec.bind_of_error askedDirectly]
        exact .stopped rfl .nil told
    -- Without an entry nothing is called. The bridge still tells that it was asked, so the
    -- histories are framed differently from here on.
    | @query vaddr missing same =>
      have asked : CallbackBridge.forward (perform (bound + 1)) ⟨table, slot⟩ (.isReadOnly vaddr) world =
          .ok false (world.record (.calling slot (.isReadOnly vaddr) false)) :=
        CallbackBridge.forward_query missing _ world
      have askedDirectly : direct (.isReadOnly vaddr) (world.retold history) =
          .ok false ((world.record (.calling slot (.isReadOnly vaddr) false)).retold (history ++ [])) := by
        rw [same, List.append_nil]
        rfl
      have still : Linked (world.record (.calling slot (.isReadOnly vaddr) false)) slot handle object := by
        rw [World.record_eq_retold]
        exact linked.retold (by simp [Event.nest])
      exact .cons asked askedDirectly (World.history_record _ _) (fun framed => .query framed)
        (ih still _)

/-- What the caller notes is the same. -/
theorem Forwarded.notes {forward direct : (request : HostRequest) → Exec σ ν request.Answer}
    {slot : HandleSlot} {handle : Handle} {object : UserData} {requests : List HostRequest}
    (forwarded : Forwarded slot handle object world world.history requests
      (askAll forward requests world) (askAll direct requests world)) :
    ((askAll forward requests).finalWorld world).history.filterMap Event.note? =
      ((askAll direct requests).finalWorld world).history.filterMap Event.note? := by
  unfold Exec.finalWorld
  generalize askAll forward requests world = first at forwarded
  generalize askAll direct requests world = second at forwarded
  cases forwarded with
  | completed requested framed extended => simp [extended, framed.notes]
  | stopped requested framed extended =>
    simp [extended, framed.notes, CallbackBridge.opening, List.filterMap_cons, Event.note?]

end

/-! ### Exactness -/

/-- Calls of the methods of any host object, made directly. -/
abbrev DirectCalls (σ ν : Type) : Type :=
  HostCallbacks σ ν → Performer σ ν → UserData → Handle →
    (request : HostRequest) → Exec σ ν request.Answer

section

variable (host : HostCallbacks σ ν) (bound : Nat) (world : World σ ν) (handle : Handle)
  (wrapper : Wrapper σ ν)

/-- An engine's requests through the wrapper's bridge, with the table that `table` makes of the
host, are the calls of the host's methods that `direct` makes. -/
structure ForwardsAs (table : HostCallbacks σ ν → CallbackTable σ ν) (direct : DirectCalls σ ν) :
    Prop where
  /-- Every sequence of requests ends just as when it is made directly. -/
  forwarded : ∀ requests,
    Forwarded wrapper.engine.configuration.callbacks.slot handle wrapper.userData world world.history
      requests
      (askAll (CallbackBridge.forward (perform bound)
        ⟨table host, wrapper.engine.configuration.callbacks.slot⟩) requests world)
      (askAll (direct host (perform bound) wrapper.userData handle) requests world)
  /-- If the methods note that they are called, the notes are the same. -/
  called : ∀ tell requests,
    ((askAll (CallbackBridge.forward (perform bound)
      ⟨table (host.noting tell), wrapper.engine.configuration.callbacks.slot⟩) requests).finalWorld
        world).history.filterMap Event.note? =
    ((askAll (direct (host.noting tell) (perform bound) wrapper.userData handle) requests).finalWorld
        world).history.filterMap Event.note?

/-- Forwarding is exact for the table of the host, and for that table without the entry for the
read-only query. -/
structure ExactForwarding : Prop where
  complete : ForwardsAs host bound world handle wrapper HostCallbacks.table HostCallbacks.serve
  unqueried : ForwardsAs host bound world handle wrapper HostCallbacks.unqueried
    HostCallbacks.serveUnqueried
  /-- A query without an entry is answered, and nothing else happens. -/
  unasked : ∀ vaddr, CallbackBridge.forward (perform bound)
      ⟨host.unqueried, wrapper.engine.configuration.callbacks.slot⟩ (.isReadOnly vaddr) world =
    .ok false (world.record
      (.calling wrapper.engine.configuration.callbacks.slot (.isReadOnly vaddr) false))
  /-- What a method notes is the call that it serves; the trap methods are told the wrapper. -/
  noted : ∀ tell request,
    (host.noting tell).serve (perform bound) wrapper.userData handle request = (do
      Exec.emit (.note (tell (request.call wrapper.userData handle)))
      host.serve (perform bound) wrapper.userData handle request)

end

section

variable {ρ : Type} {limit : Nat} {own : σ} {commands : List (Command σ ν ρ)} {handle : Handle}
  {wrapper : Wrapper σ ν}

theorem Linked.forwardsAs
    (linked : Linked world wrapper.engine.configuration.callbacks.slot handle wrapper.userData)
    {table : HostCallbacks σ ν → CallbackTable σ ν} {direct : DirectCalls σ ν} {bound : Nat}
    (served : ∀ host request, ServedAlike host (table host) (perform (bound + 1)) wrapper.userData handle
      (direct host (perform (bound + 1)) wrapper.userData handle) request)
    (host : HostCallbacks σ ν) : ForwardsAs host (bound + 1) world handle wrapper table direct := by
  have alike (host : HostCallbacks σ ν) (requests : List HostRequest) :
      Forwarded wrapper.engine.configuration.callbacks.slot handle wrapper.userData world world.history
        requests
        (askAll (CallbackBridge.forward (perform (bound + 1))
          ⟨table host, wrapper.engine.configuration.callbacks.slot⟩) requests world)
        (askAll (direct host (perform (bound + 1)) wrapper.userData handle) requests world) := by
    simpa using forwarded_askAll (served host) linked world.history requests
  exact ⟨alike host, fun tell requests => (alike (host.noting tell) requests).notes⟩

/-- Forwarding on behalf of a wrapper that a session has built is exact, at any moment and for every
host. -/
theorem exactForwarding (reached : Reached limit own commands world)
    (present : world.wrappers.get? handle = some wrapper) (host : HostCallbacks σ ν) (bound : Nat) :
    ExactForwarding host (bound + 1) world handle wrapper := by
  have coherent := reached.coherent
  have linked : Linked world wrapper.engine.configuration.callbacks.slot handle wrapper.userData :=
    ⟨reached.nested, (coherent.slots _ handle).2 ⟨_, coherent.own handle wrapper present⟩,
      wrapper, present, rfl⟩
  exact {
    complete := linked.forwardsAs (fun host request => host.servedAlike_table _ _ _ request) host
    unqueried := linked.forwardsAs (fun host request => host.servedAlike_unqueried _ _ _ request) host
    unasked := fun vaddr => CallbackBridge.forward_query rfl (perform (bound + 1)) world
    noted := fun tell request => host.serve_noting tell _ _ handle request }

end

/-! ### A host that counts -/

namespace Counting

/-- A host whose state is a number: writes replace it, reads yield it, supervisor calls and ticks
add to it. -/
def host : HostCallbacks UInt64 MethodCall where
  read _ width _ := .access id fun shared => .finish (.ofNat width.bits shared.own.toNat)
  write _ _ _ value := .modifyOwn fun _ => .ofNat value.toNat
  supervisorCall _ _ number := .modifyOwn fun count => count + number.toUInt64
  exceptionRaised _ _ _ _ := .modifyOwn fun count => count + 1
  addTicks _ ticks := .modifyOwn fun count => count + ticks
  ticksRemaining _ := .access id fun shared => .finish shared.own

/-- A session that builds a wrapper with the host's table and one of the host's objects. -/
def session : List (Command UInt64 MethodCall Unit) :=
  [.construct (.object 1) host.table none none .stepping]

/-- What the wrapper is in the end. -/
def wrapper : Wrapper UInt64 MethodCall where
  userData := .object 1
  state := .constructed
  engine := .stepping
    { callbacks := ⟨host.table, ⟨0⟩⟩
      pageTable := none
      coprocessors := .replicate 16 none
      options := .default }

end Counting

/-- A host that notes its calls, in a wrapper that a session has built: three requests through the
bridge are three calls of its methods, with the handle where the method takes it. -/
theorem exactForwarding_counting :
    let world := Command.sessionWorld 1 0 Counting.session
    let table := (Counting.host.noting id).table
    ExactForwarding Counting.host 1 world ⟨1⟩ Counting.wrapper ∧
      ((askAll (CallbackBridge.forward (perform 1) ⟨table, ⟨0⟩⟩)
        [.write .halfword 2 7, .supervisorCall 3, .read .byte 9]).finalWorld world).history.filterMap
          Event.note? =
        [⟨.object 1, none, .write .halfword 2 7⟩, ⟨.object 1, some ⟨1⟩, .supervisorCall 3⟩,
          ⟨.object 1, none, .read .byte 9⟩] := by
  intro world table
  have reached : Reached 1 0 Counting.session world :=
    ⟨[.built ⟨1⟩], .empty, world, rfl, .refl⟩
  exact ⟨exactForwarding reached rfl Counting.host 0, by decide +kernel⟩

end RecompilerAdapter
