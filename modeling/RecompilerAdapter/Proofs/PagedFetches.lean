/-
Module: RecompilerAdapter.Proofs.PagedFetches
Purpose: Fetching from pages and fetching through callbacks. If the pages of an engine are equal to the
  guest's memory, a run with the page table and a run without it differ in nothing but the requests for
  the words of mapped pages. A caller with one mapped page is an instance.
Trusted boundary: none
Main exports: PagedEngine.Begins, PagedEngine.FetchesAgree
-/
import RecompilerAdapter.Adapter.Builder
import RecompilerAdapter.Proofs.PagedRuns

namespace RecompilerAdapter

open Stepping (pc)

variable {σ ν : Type}

namespace PagedEngine

/-! ### The agreement -/

/-- A world in which a wrapper has the engine, and whatever other wrappers do is considerate. Its
history is where the comparison of histories begins. -/
structure Begins (paged : PagedEngine σ ν) (state : RunState) (wrapper : Wrapper σ ν)
    (world : World σ ν) : Prop where
  faithful : paged.Faithful world.shared.own
  bound : world.slots.get? paged.configuration.callbacks.slot = some paged.handle
  present : world.wrappers.get? paged.handle = some wrapper
  employs : paged.Employs state [] Aligned wrapper
  others : ∀ handle other, handle ≠ paged.handle → world.wrappers.get? handle = some other →
    paged.considerate.Wrappers other other
  history : world.history = paged.past

theorem Begins.alike {paged : PagedEngine σ ν} {state : RunState} {wrapper : Wrapper σ ν} {world : World σ ν}
    (begins : paged.Begins state wrapper world) :
    paged.Alike state [] Aligned world (world.place paged.handle wrapper.unpaged) where
  shared := rfl
  slots := rfl
  built := rfl
  script := rfl
  faithful := begins.faithful
  bound := begins.bound
  employed := ⟨wrapper, begins.employs, begins.present, by simp⟩
  others handle isOther := by
    rw [World.get?_place, if_neg isOther]
    cases found : world.wrappers.get? handle with
    | none => exact .none
    | some other => exact .some (begins.others handle other isOther found)
  history := by
    rw [World.history_place, begins.history]
    exact .past

/-- An engine that finds some words in its pages does the same as without a page table. This is said
of whole runs and of each step inside a run. -/
structure FetchesAgree (paged : PagedEngine σ ν) : Prop where
  /-- Without its page table, the engine is in the same world. -/
  begins : ∀ state wrapper world, paged.Begins state wrapper world →
    paged.Alike state [] Aligned world (world.place paged.handle wrapper.unpaged)
  /-- From such two worlds, a run that is accepted ends alike: it executes the same words, with the
  same registers, requests, coprocessor calls and ticks, except for the requests for words of mapped
  pages. -/
  runs : ∀ state, state ≠ .running → ∀ bound surface script,
    Exec.Corresponds paged.Stopped (paged.Alike state [] Aligned) (paged.Alike .halted [] Aligned)
      (· = ·) (RecompilerAdapter.perform bound surface paged.handle (.run script))
      (RecompilerAdapter.perform bound surface paged.handle (.run script))
  /-- So does a step inside a run; it leaves the program counter aligned. -/
  steps : ∀ depth, paged.EndAlike .running [] Aligned (· = ·)
    (Stepping.step (RecompilerAdapter.perform (depth + 1)) paged.handle)
    (Stepping.step (RecompilerAdapter.perform (depth + 1)) paged.handle)
  /-- Every address has its page in the table, and the bytes of a word lie in one page. -/
  inside : ∀ address, PageTable.pageNumber address < pageCount ∧
    PageTable.wordOffset address + 4 ≤ pageSize

end PagedEngine

/-- Fetching from pages and fetching through the callbacks agree. A run keeps the pages faithful and
the program counter aligned, so each fetch from a page is one that the callback would have answered
alike. -/
theorem pagedFetches {paged : PagedEngine σ ν} (sound : paged.Sound) : paged.FetchesAgree where
  begins _ _ _ begins := begins.alike
  runs _ resting := PagedEngine.perform_run_alike sound resting
  steps := PagedEngine.step_alike sound
  inside address := ⟨PageTable.pageNumber_lt address, PageTable.wordOffset_add_le address⟩

/-! ### A caller with one mapped page -/

/-- A method that changes nothing is called by an entry that changes nothing. -/
theorem HostCallbacks.withSelf_peeks {α : Type} {handle : Handle} {wrapper : Wrapper σ ν}
    {shared : Shared σ} {method : UserData → Activity σ ν α} {told : List (Event ν)} {answer : α}
    (peeks : (method wrapper.userData).Peeks handle wrapper shared told answer) :
    (withSelf handle method).Peeks handle wrapper shared
      (.acting .direct handle .userData ::
        .acted .direct handle .userData (.userData wrapper.userData) :: told) answer := by
  have looks : Action.userData.observation? =
      some fun wrapper : Wrapper σ ν => Reply.userData wrapper.userData := rfl
  exact .observe looks peeks

namespace PagedEngine.Lone

/-- All of the guest's memory, and the ticks that remain. -/
structure Own where
  memory : UInt32 → UInt8
  ticks : UInt64

/-- Objects that serve reads from the memory; a supervisor call starts the guest over. -/
def host : HostCallbacks Own Unit where
  read _ width vaddr := do
    let own := (← Activity.get).own
    return BitVec.ofNat width.bits (LittleEndian.ofBytes
      (List.ofFn fun place : Fin width.size => own.memory (vaddr + UInt32.ofNat place)))
  write _ _ _ _ := pure ()
  supervisorCall _ handle _ := do
    let _ ← Activity.act .direct handle (.setRegister pc 0)
  exceptionRaised _ _ _ _ := pure ()
  addTicks _ ticks := Activity.modifyOwn fun own => { own with ticks := own.ticks - ticks }
  ticksRemaining _ := return (← Activity.get).own.ticks

/-- The first page is mapped. -/
def table : PageTable Own where
  page? number := if number = 0 then
    some fun own => Vector.ofFn fun offset => own.memory (UInt32.ofNat offset)
  else
    none

/-- Memory that is filled with zeros, and some ticks. -/
def own : Own :=
  ⟨fun _ => 0, 100⟩

/-- The caller has built a wrapper of a stepping engine with the page table. -/
def world : World Own Unit :=
  (((Builder.new (.object 7) host.table).withPageTable (some table)).build (perform 0)
    .stepping).finalWorld (.initial own)

/-- The engine of that wrapper, at the time at which it was built. -/
def paged : PagedEngine Own Unit where
  handle := ⟨1⟩
  data := .object 7
  configuration := ⟨⟨host.table, ⟨0⟩⟩, some table, Vector.replicate 16 none, .default⟩
  table := table
  memory own := own.memory
  past := world.history

theorem faithful (own : Own) : paged.Faithful own := by
  intro number page _ isPage offset
  have isMapped : (if number = 0 then some fun own : Own => Vector.ofFn fun offset : Fin pageSize =>
      own.memory (UInt32.ofNat offset) else none) = some page := isPage
  split at isMapped
  · rename_i isFirst
    rw [← Option.some.inj isMapped, isFirst, Nat.zero_mul, Nat.zero_add]
    exact Vector.getElem_ofFn ..
  · cases isMapped

theorem considerate_withSelf {α : Type} {agree : α → α → Prop} (handle : Handle)
    {method : UserData → Activity Own Unit α}
    (considerate : ∀ object, paged.Considerate agree (method object) (method object)) :
    paged.Considerate agree (HostCallbacks.withSelf handle method)
      (HostCallbacks.withSelf handle method) := by
  apply Considerate.perform
  · rintro value - ⟨⟩
  · intro reply
    cases reply <;> exact considerate _

/-- The objects are considerate: the memory never changes, and the guest starts over at an aligned
address. -/
theorem considerate_host (object : UserData) (handle : Handle) (request : HostRequest) :
    paged.Considerate (· = ·) (host.answer object handle request)
      (host.answer object handle request) := by
  cases request with
  | read | ticksRemaining => exact .access (fun _ _ => faithful _) fun _ _ => .finish rfl
  | addTicks => exact .access (fun _ _ => faithful _) fun _ _ => .finish rfl
  | supervisorCall =>
    apply Considerate.perform
    · rintro value - ⟨⟩
      decide
    · exact fun _ => .finish rfl
  | write | isReadOnly | exceptionRaised => exact .finish rfl

theorem sound : paged.Sound where
  pageTable := rfl
  considerate :=
    { slot := rfl
      table := fun request => by
        have served := host.table_serves request
        show Option.Rel _ (host.table.entry? request) (host.table.entry? request)
        rw [served]
        exact .some fun handle => considerate_withSelf handle fun object =>
          considerate_host object handle request
      pageTable := rfl
      coprocessors := fun slot => by
        have empty : paged.configuration.coprocessors[slot] = none := Vector.getElem_replicate ..
        rw [empty]
        exact .none
      options := rfl }
  reads _ _ _ _ _ _ _ := ⟨_, HostCallbacks.withSelf_peeks (.access rfl (.finish _))⟩

theorem begins : ∃ wrapper, paged.Begins .constructed wrapper world := by
  obtain ⟨wrapper, isWrapper⟩ : ∃ wrapper : Wrapper Own Unit,
      wrapper = ⟨.object 7, .constructed, .stepping paged.configuration⟩ := ⟨_, rfl⟩
  have built : world.wrappers = Registry.empty.insert paged.handle wrapper := isWrapper ▸ rfl
  refine ⟨wrapper, faithful _, rfl, ?_, ?_, ?_, rfl⟩
  · rw [built, Registry.get?_insert, if_pos rfl]
  · subst isWrapper
    exact ⟨rfl, rfl, rfl, rfl, by decide⟩
  · intro handle other isOther found
    rw [built, Registry.get?_insert, if_neg isOther] at found
    cases found

end PagedEngine.Lone

/-- The first page is mapped, and the guest makes supervisor calls that send it back to the
beginning of this page. -/
theorem pagedFetches_lone : PagedEngine.Lone.paged.Sound ∧ PagedEngine.Lone.paged.FetchesAgree ∧
    ∃ wrapper, PagedEngine.Lone.paged.Begins .constructed wrapper PagedEngine.Lone.world :=
  ⟨PagedEngine.Lone.sound, pagedFetches PagedEngine.Lone.sound, PagedEngine.Lone.begins⟩

end RecompilerAdapter
