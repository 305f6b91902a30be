/-
Module: RecompilerAdapter.Proofs.MemoryAccesses
Purpose: Guest memory behind a bridge. A caller's objects keep flat memory and serve accesses of all
  widths from it. Whatever accesses an engine makes, one after the other, the memory behaves like an array
  of bytes: a read yields the bytes that were written last, and a write changes the bytes that it touches.
Trusted boundary: none
Main exports: MemoryAccess, MemoryAccess.answerAfter, MemoryHost, MemoryHost.Serves,
  MemoryHost.ServesBytes
-/
import RecompilerAdapter.Proofs.FlatMemory
import RecompilerAdapter.Proofs.HandleIdentity

namespace RecompilerAdapter

open Finset

variable {σ ν : Type}

/-! ### Accesses -/

/-- One access of an engine to guest memory. -/
inductive MemoryAccess where
  | read (width : Width) (vaddr : UInt32)
  | write (width : Width) (vaddr : UInt32) (value : BitVec width.bits)

namespace MemoryAccess

/-- The request that makes the access. -/
def request : MemoryAccess → HostRequest
  | read width vaddr => .read width vaddr
  | write width vaddr value => .write width vaddr value

/-- The byte that an access leaves at an address; `none` if it does not write there. Nothing is
written by an access that does not lie entirely inside. -/
def leaves? (size address : Nat) : MemoryAccess → Option Nat
  | read .. => none
  | write width vaddr value =>
    if Memory.Inside size width vaddr ∧ Memory.Touches width vaddr address then
      some (value.toNat / 256 ^ (address - vaddr.toNat) % 256)
    else
      none

/-- The byte at an address that was written last; zero if there was none. This says what a memory of
bytes is without any memory, from the accesses alone. -/
def lastWritten (size : Nat) (accesses : List MemoryAccess) (address : Nat) : Nat :=
  (accesses.reverse.findSome? (leaves? size address)).getD 0

/-- The answer to an access that follows others: the bytes that were written last, each weighted by
its place. -/
def answerAfter (size : Nat) (earlier : List MemoryAccess) : MemoryAccess → HostAnswer
  | read width vaddr => .number (if Memory.Inside size width vaddr then
      ∑ place ∈ range width.size, 256 ^ place * lastWritten size earlier (vaddr.toNat + place)
    else 0)
  | write .. => .nothing

/-- What an access makes of the memory. -/
def apply (memory : Memory) : MemoryAccess → Memory
  | read .. => memory
  | write width vaddr value => memory.write width vaddr value

/-- What an access yields. -/
def answer (memory : Memory) : MemoryAccess → HostAnswer
  | read width vaddr => .number (memory.read width vaddr).toNat
  | write .. => .nothing

/-- Makes an access through a bridge. The answer is in the form in which it is reported, so that
those of all widths can stand in one list. -/
def issue (perform : Performer σ ν) (bridge : CallbackBridge σ ν) (access : MemoryAccess) :
    Exec σ ν HostAnswer :=
  return access.request.report (← bridge.forward perform access.request)

/-- Makes accesses through a bridge, one after the other. -/
def issueAll (perform : Performer σ ν) (bridge : CallbackBridge σ ν) (accesses : List MemoryAccess) :
    Exec σ ν (List HostAnswer) :=
  accesses.mapM (issue perform bridge)

theorem issueAll_cons (perform : Performer σ ν) (bridge : CallbackBridge σ ν) (access : MemoryAccess)
    (accesses : List MemoryAccess) : issueAll perform bridge (access :: accesses) = (do
      let answer ← access.issue perform bridge
      return answer :: (← issueAll perform bridge accesses)) :=
  List.mapM_cons

theorem lastWritten_append (size : Nat) (earlier : List MemoryAccess) (access : MemoryAccess)
    (address : Nat) : lastWritten size (earlier ++ [access]) address =
      (access.leaves? size address).getD (lastWritten size earlier address) := by
  unfold lastWritten
  rw [List.reverse_append, List.reverse_singleton, List.singleton_append, List.findSome?_cons]
  cases access.leaves? size address <;> rfl

/-- A memory is what accesses have made of zeros. -/
structure Leave (size : Nat) (accesses : List MemoryAccess) (memory : Memory) : Prop where
  extent : memory.bytes.size = size
  bytes : ∀ address, memory.byte address = lastWritten size accesses address

namespace Leave

variable {size : Nat} {earlier : List MemoryAccess} {memory : Memory}

theorem zeroed (size : Nat) : Leave size [] (.zeroed size) :=
  ⟨Memory.size_zeroed size, fun address => Memory.byte_zeroed size address⟩

theorem apply (leave : Leave size earlier memory) (access : MemoryAccess) :
    Leave size (earlier ++ [access]) (access.apply memory) := by
  cases access with
  | read width vaddr =>
    refine ⟨leave.extent, fun address => ?_⟩
    rw [lastWritten_append]
    exact leave.bytes address
  | write width vaddr value =>
    refine ⟨(Memory.size_write ..).trans leave.extent, fun address => ?_⟩
    rw [lastWritten_append, leaves?, MemoryAccess.apply, Memory.byte_write, leave.extent, leave.bytes]
    split <;> rfl

theorem answer_eq (leave : Leave size earlier memory) (access : MemoryAccess) :
    access.answer memory = access.answerAfter size earlier := by
  cases access with
  | read width vaddr =>
    rw [answer, answerAfter, Memory.toNat_read, leave.extent]
    simp only [leave.bytes]
  | write => rfl

end Leave

end MemoryAccess

/-! ### Hosts with memory -/

/-- Where the objects of a caller keep their memory. Replacing it must be seen when it is looked up
again, and that is all that is asked of it. -/
structure MemoryHost (σ : Type) where
  memory : UserData → σ → Memory
  replace : UserData → Memory → σ → σ
  memory_replace : ∀ self contents own, memory self (replace self contents own) = contents

namespace MemoryHost

variable (host : MemoryHost σ) (others : HostCallbacks σ ν)

/-- Objects that serve accesses from their memory, and everything else like other objects. -/
def serving : HostCallbacks σ ν :=
  { others with
    read := fun self width vaddr => do
      return (host.memory self (← Activity.get).own).read width vaddr
    write := fun self width vaddr value => Activity.modifyOwn fun own =>
      host.replace self ((host.memory self own).write width vaddr value) own }

/-- A bridge reaches an object with memory: it has the handle of a wrapper with that context. The
wrapper need not be inside a run, as entries may be called at any time. -/
structure Serves (bridge : CallbackBridge σ ν) (object : UserData) (world : World σ ν) : Prop where
  table : bridge.table = (host.serving others).table
  attached : ∃ handle wrapper, world.slots.get? bridge.slot = some handle ∧
    world.wrappers.get? handle = some wrapper ∧ wrapper.userData = object

/-- The object's method does to its memory what the access does. -/
theorem serving_exec (object : UserData) (perform : Performer σ ν) (handle : Handle)
    (access : MemoryAccess) (world : World σ ν) : ∃ answer own,
      ((host.serving others).answer object handle access.request).exec perform world =
        .ok answer { world with shared := { world.shared with own := own } } ∧
      access.request.report answer = access.answer (host.memory object world.shared.own) ∧
      host.memory object own = access.apply (host.memory object world.shared.own) := by
  cases access with
  | read width vaddr => exact ⟨_, world.shared.own, rfl, rfl, rfl⟩
  | write width vaddr value => exact ⟨_, _, rfl, rfl, host.memory_replace ..⟩

variable {host others} {bridge : CallbackBridge σ ν} {object : UserData} {world : World σ ν}

/-- One access through a bridge is one access to the memory behind it. It is served again
afterwards, so accesses can follow each other. -/
theorem Serves.issue (serves : host.Serves others bridge object world) (bound : Nat)
    (access : MemoryAccess) :
    ∃ after, access.issue (perform (bound + 1)) bridge world =
        .ok (access.answer (host.memory object world.shared.own)) after ∧
      host.memory object after.shared.own = access.apply (host.memory object world.shared.own) ∧
      host.Serves others bridge object after := by
  obtain ⟨handle, wrapper, isBound, present, rfl⟩ := serves.attached
  have served := (host.serving others).table_serves access.request
  rw [← serves.table] at served
  -- The world in which the method runs, after the bridge has told of the request and has recovered
  -- the object. Nothing but the history has changed by then.
  obtain ⟨called, isCalled⟩ : ∃ called, called = (world.recordAll
      [.calling bridge.slot access.request true, .requested handle access.request]).recordAll
      [.acting .direct handle .userData,
        .acted .direct handle .userData (.userData wrapper.userData)] := ⟨_, rfl⟩
  have shared : called.shared = world.shared := by rw [isCalled]; rfl
  have slots : called.slots = world.slots := by rw [isCalled]; rfl
  have wrappers : called.wrappers = world.wrappers := by rw [isCalled]; rfl
  obtain ⟨answer, own, executed, reported, kept⟩ := host.serving_exec others wrapper.userData
    (perform (bound + 1)) handle access called
  rw [shared] at reported kept
  have asked : (world.recordAll [.calling bridge.slot access.request true,
      .requested handle access.request]).wrappers.get? handle = some wrapper := by simpa using present
  have recovered := HostCallbacks.withSelf_exec asked
    (fun object => (host.serving others).answer object handle access.request) bound
  rw [← isCalled, executed] at recovered
  have forwarded := bridge.forward_bound isBound (perform (bound + 1)) served
  rw [Exec.bind_of_ok recovered] at forwarded
  refine ⟨({ called with shared := { called.shared with own := own } } : World σ ν).record
    (.answered handle access.request (access.request.report answer)), ?_, kept, serves.table, handle,
      wrapper, ?_, ?_, rfl⟩
  · exact (Exec.bind_of_ok forwarded).trans (congrArg (EStateM.Result.ok · _) reported)
  · exact (congrArg (·.get? bridge.slot) slots).trans isBound
  · exact (congrArg (·.get? handle) wrappers).trans present

/-- Accesses one after the other, after earlier ones. -/
theorem Serves.issueAll {size : Nat} {earlier : List MemoryAccess}
    (serves : host.Serves others bridge object world) (bound : Nat)
    (leave : MemoryAccess.Leave size earlier (host.memory object world.shared.own))
    (accesses : List MemoryAccess) :
    ∃ after, MemoryAccess.issueAll (perform (bound + 1)) bridge accesses world =
        .ok (accesses.mapIdx fun index access =>
          access.answerAfter size (earlier ++ accesses.take index)) after ∧
      MemoryAccess.Leave size (earlier ++ accesses) (host.memory object after.shared.own) ∧
      host.Serves others bridge object after := by
  induction accesses generalizing earlier world with
  | nil => exact ⟨world, rfl, by rwa [List.append_nil], serves⟩
  | cons access accesses ih =>
    obtain ⟨middle, issued, kept, still⟩ := serves.issue bound access
    have left := leave.apply access
    rw [← kept] at left
    obtain ⟨after, rest, leaves, last⟩ := ih still left
    refine ⟨after, ?_, by simpa using leaves, last⟩
    rw [MemoryAccess.issueAll_cons, Exec.bind_of_ok issued, Exec.bind_of_ok rest, leave.answer_eq,
      List.mapIdx_cons, List.take_zero, List.append_nil]
    simp only [List.take_succ_cons, List.append_assoc, List.singleton_append]
    rfl

/-- The memory of an object after accesses through a bridge. -/
def memoryAfter (host : MemoryHost σ) (object : UserData) (perform : Performer σ ν)
    (bridge : CallbackBridge σ ν) (accesses : List MemoryAccess) (world : World σ ν) : Memory :=
  host.memory object ((MemoryAccess.issueAll perform bridge accesses).finalWorld world).shared.own

/-- Accesses of all widths through a bridge treat the memory of an object, which is filled with
zeros at first, as an array of bytes. -/
structure ServesBytes (host : MemoryHost σ) (object : UserData) (size : Nat) (perform : Performer σ ν)
    (bridge : CallbackBridge σ ν) (world : World σ ν) : Prop where
  /-- Every access completes; a read yields the bytes that were written last. -/
  answers : ∀ accesses, ∃ after, MemoryAccess.issueAll perform bridge accesses world =
    .ok (accesses.mapIdx fun index access => access.answerAfter size (accesses.take index)) after
  /-- The memory holds the bytes that were written last, and keeps its size. -/
  bytes : ∀ accesses, MemoryAccess.Leave size accesses
    (host.memoryAfter object perform bridge accesses world)
  /-- A read changes nothing. -/
  read : ∀ earlier width vaddr,
    host.memoryAfter object perform bridge (earlier ++ [.read width vaddr]) world =
      host.memoryAfter object perform bridge earlier world
  /-- A write that does not lie entirely inside changes nothing. -/
  outside : ∀ earlier width vaddr value, ¬ Memory.Inside size width vaddr →
    host.memoryAfter object perform bridge (earlier ++ [.write width vaddr value]) world =
      host.memoryAfter object perform bridge earlier world
  /-- A write that lies entirely inside stores the value in the bytes from its address on. -/
  inside : ∀ earlier width vaddr (value : BitVec width.bits) (place : Nat),
    Memory.Inside size width vaddr → place < width.size →
    (host.memoryAfter object perform bridge (earlier ++ [.write width vaddr value]) world).byte
      (vaddr.toNat + place) = value.toNat / 256 ^ place % 256
  /-- No write changes a byte that it does not touch; in particular none before its address. -/
  untouched : ∀ earlier width vaddr value address, ¬ Memory.Touches width vaddr address →
    (host.memoryAfter object perform bridge (earlier ++ [.write width vaddr value]) world).byte
      address = (host.memoryAfter object perform bridge earlier world).byte address

section

variable {size : Nat} (serves : host.Serves others bridge object world)
  (blank : host.memory object world.shared.own = .zeroed size)

include serves blank

theorem issueAll_blank (bound : Nat) (accesses : List MemoryAccess) :
    ∃ after, MemoryAccess.issueAll (perform (bound + 1)) bridge accesses world =
        .ok (accesses.mapIdx fun index access => access.answerAfter size (accesses.take index)) after ∧
      host.memory object after.shared.own =
        host.memoryAfter object (perform (bound + 1)) bridge accesses world ∧
      MemoryAccess.Leave size accesses (host.memory object after.shared.own) ∧
      host.Serves others bridge object after := by
  have zeros : MemoryAccess.Leave size [] (host.memory object world.shared.own) := by
    rw [blank]
    exact .zeroed size
  obtain ⟨after, issued, leave, still⟩ := serves.issueAll bound zeros accesses
  refine ⟨after, issued, ?_, leave, still⟩
  rw [memoryAfter, Exec.finalWorld, issued]

/-- One access more is made of the memory that the earlier ones leave. -/
theorem memoryAfter_append (bound : Nat) (earlier : List MemoryAccess) (access : MemoryAccess) :
    host.memoryAfter object (perform (bound + 1)) bridge (earlier ++ [access]) world =
      access.apply (host.memoryAfter object (perform (bound + 1)) bridge earlier world) := by
  obtain ⟨middle, issued, isMemory, _, still⟩ := issueAll_blank serves blank bound earlier
  obtain ⟨after, last, kept, _⟩ := still.issue bound access
  have all : ∃ answers, MemoryAccess.issueAll (perform (bound + 1)) bridge (earlier ++ [access]) world =
      .ok answers after := by
    have single : MemoryAccess.issueAll (perform (bound + 1)) bridge [access] middle =
        .ok [access.answer (host.memory object middle.shared.own)] after := by
      rw [MemoryAccess.issueAll_cons]
      exact Exec.bind_of_ok last
    rw [MemoryAccess.issueAll, List.mapM_append]
    exact ⟨_, (Exec.bind_of_ok issued).trans (Exec.bind_of_ok single)⟩
  obtain ⟨answers, completed⟩ := all
  rw [← isMemory, ← kept, memoryAfter, Exec.finalWorld, completed]

/-- The memory keeps its size. -/
theorem size_memoryAfter (bound : Nat) (accesses : List MemoryAccess) :
    (host.memoryAfter object (perform (bound + 1)) bridge accesses world).bytes.size = size := by
  obtain ⟨after, _, isMemory, leave, _⟩ := issueAll_blank serves blank bound accesses
  rw [← isMemory, leave.extent]

end

end MemoryHost

/-- Guest memory that is accessed at different widths is a byte array. All fields are about the
memory after some earlier accesses, which is the fold of their effects. -/
theorem widthMixedMemory {host : MemoryHost σ} {others : HostCallbacks σ ν}
    {bridge : CallbackBridge σ ν} {object : UserData} {world : World σ ν} {size : Nat}
    (serves : host.Serves others bridge object world)
    (blank : host.memory object world.shared.own = .zeroed size) (bound : Nat) :
    host.ServesBytes object size (perform (bound + 1)) bridge world where
  answers accesses := by
    obtain ⟨after, issued, _⟩ := MemoryHost.issueAll_blank serves blank bound accesses
    exact ⟨after, issued⟩
  bytes accesses := by
    obtain ⟨after, _, isMemory, leave, _⟩ := MemoryHost.issueAll_blank serves blank bound accesses
    exact isMemory ▸ leave
  read earlier width vaddr := MemoryHost.memoryAfter_append serves blank bound earlier _
  outside earlier width vaddr value outside := by
    have extent := MemoryHost.size_memoryAfter serves blank bound earlier
    rw [MemoryHost.memoryAfter_append serves blank]
    exact Memory.write_of_outside (by rwa [extent]) value
  inside earlier width vaddr value place inside below := by
    have extent := MemoryHost.size_memoryAfter serves blank bound earlier
    have touched : Memory.Touches width vaddr (vaddr.toNat + place) :=
      ⟨Nat.le_add_right .., Nat.add_lt_add_left below _⟩
    rw [MemoryHost.memoryAfter_append serves blank, MemoryAccess.apply, Memory.byte_write, extent,
      if_pos ⟨inside, touched⟩, Nat.add_sub_cancel_left]
  untouched earlier width vaddr value address untouched := by
    rw [MemoryHost.memoryAfter_append serves blank, MemoryAccess.apply, Memory.byte_write,
      if_neg fun both => untouched both.2]

/-! ### A caller that is its memory -/

namespace MemoryHost.Lone

/-- All objects share one memory, which is all that the caller has. -/
def host : MemoryHost Memory where
  memory _ own := own
  replace _ contents _ := contents
  memory_replace _ _ _ := rfl

/-- Objects that do nothing. -/
def idle : HostCallbacks Memory Unit where
  read _ _ _ := pure 0
  write _ _ _ _ := pure ()
  supervisorCall _ _ _ := pure ()
  exceptionRaised _ _ _ _ := pure ()
  addTicks _ _ := pure ()
  ticksRemaining _ := pure 0

/-- The caller with a memory of a size, after it has built a wrapper. -/
def world (size : Nat) : World Memory Unit :=
  ((Builder.new (.object 7) (host.serving idle).table).build (perform 0) .stepping).finalWorld
    (.initial (.zeroed size))

/-- The bridge of that wrapper. -/
def bridge : CallbackBridge Memory Unit :=
  ⟨(host.serving idle).table, ⟨0⟩⟩

theorem serves (size : Nat) : host.Serves idle bridge (.object 7) (world size) :=
  ⟨rfl, ⟨1⟩, _, rfl, rfl, rfl⟩

end MemoryHost.Lone

/-- A host with six bytes, behind a bridge whose slot is bound, serves them byte by byte. -/
theorem widthMixedMemory_lone :
    MemoryHost.Lone.host.Serves MemoryHost.Lone.idle MemoryHost.Lone.bridge (.object 7)
        (MemoryHost.Lone.world 6) ∧
      MemoryHost.Lone.host.ServesBytes (.object 7) 6 (perform 1) MemoryHost.Lone.bridge
        (MemoryHost.Lone.world 6) :=
  ⟨MemoryHost.Lone.serves 6, widthMixedMemory (MemoryHost.Lone.serves 6) rfl 0⟩

end RecompilerAdapter
