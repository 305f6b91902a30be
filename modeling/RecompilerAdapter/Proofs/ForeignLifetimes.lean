/-
Module: RecompilerAdapter.Proofs.ForeignLifetimes
Purpose: Lives of wrappers. On the foreign surface a wrapper is constructed from an array of coprocessor
  tables, used and deleted. On the direct surface a builder gets the same tables one by one, in any order,
  the wrapper is built, used in the same way and deleted. Both lives go alike: the same happens in the
  same order, with the same handles and replies. They differ only where the foreign surface ends
  everything, if the engine cannot be constructed or a run is rejected.
Trusted boundary: none
Main exports: Wrapper.foreignLife, Wrapper.directLife, LivesAlike, Exec.Refines, Wrapper.lives_alike
-/
import RecompilerAdapter.Proofs.DirectBodies
import RecompilerAdapter.Proofs.EncodedSteps

namespace RecompilerAdapter

variable {σ ν ρ α : Type}

/-! ### Lives -/

namespace Wrapper

/-- What becomes of a wrapper that is in place: it is used and then deleted. On both surfaces this
is the same, up to the surface that callbacks use. -/
def live (perform : Performer σ ν) (use : Handle → Activity σ ν ρ) (handle : Handle) :
    Exec σ ν (Handle × ρ) := do
  let answer ← (use handle).exec perform
  delete handle
  return (handle, answer)

/-- The life of a wrapper on the foreign surface. -/
def foreignLife (perform : Performer σ ν) (userData : UserData) (callbacks : CallbackTable σ ν)
    (pageTable : Option (PageTable σ))
    (coprocessors : Option (Vector (WireOption (CoprocessorTable σ ν)) coprocessorCount))
    (engine : EngineChoice) (use : Handle → Activity σ ν ρ) : Exec σ ν (Handle × ρ) := do
  let handle ← construct perform userData callbacks pageTable coprocessors engine
  live perform use handle

end Wrapper

/-- Installs tables in their order. -/
def Builder.installAll (builder : Builder σ ν) :
    List (Fin 16 × CoprocessorTable σ ν) → Exec σ ν (Except AdapterError (Builder σ ν))
  | [] => return .ok builder
  | (slot, table) :: rest => do
    match ← builder.withCoprocessor slot table with
    | .ok builder => builder.installAll rest
    | .error error => return .error error

/-- The life of a wrapper on the direct surface. -/
def Wrapper.directLife (perform : Performer σ ν) (userData : UserData) (callbacks : CallbackTable σ ν)
    (pageTable : Option (PageTable σ)) (installs : List (Fin 16 × CoprocessorTable σ ν))
    (engine : EngineChoice) (use : Handle → Activity σ ν ρ) :
    Exec σ ν (Except AdapterError (Handle × ρ)) := do
  let builder := (Builder.new userData callbacks).withPageTable pageTable
  match ← builder.installAll installs with
  | .error error => return .error error
  | .ok builder =>
    match ← (builder.withOptions .default).build perform engine with
    | .error error => return .error (.engineConstruction error)
    | .ok handle => return .ok (← live perform use handle)

/-! ### Installing tables one by one -/

/-- The tables of all slots after some have been installed. -/
def CoprocessorTables.installed (tables : CoprocessorTables σ ν)
    (installs : List (Fin 16 × CoprocessorTable σ ν)) : CoprocessorTables σ ν :=
  Vector.ofFn fun slot => (installs.lookup slot).or (tables.get slot)

/-- The tables of an array and those of a list are alike, slot by slot, and the list has each slot
once. So the list installs what the array hands over at once, in any order. -/
structure BodyRelation.Installs (bodies : BodyRelation σ ν) (tables : CoprocessorTables σ ν)
    (installs : List (Fin 16 × CoprocessorTable σ ν)) : Prop where
  once : (installs.map Prod.fst).Nodup
  slots : ∀ slot : Fin 16, Option.Rel bodies.Coprocessors tables[slot] (installs.lookup slot)

namespace CoprocessorTables

theorem get_set (tables : CoprocessorTables σ ν) (slot any : Fin 16) (table : CoprocessorTable σ ν) :
    Vector.get (tables.set slot (some table)) any =
      if any = slot then some table else Vector.get tables any := by
  show (tables.set slot (some table))[any.val] = if any = slot then some table else tables[any.val]
  rw [Vector.getElem_set]
  simp only [Fin.ext_iff, eq_comm]

/-- Installing a table first and then others, in other slots, is installing them all. -/
theorem installed_cons (tables : CoprocessorTables σ ν) {slot : Fin 16} (table : CoprocessorTable σ ν)
    {installs : List (Fin 16 × CoprocessorTable σ ν)} (other : slot ∉ installs.map Prod.fst) :
    installed (tables.set slot (some table)) installs = installed tables ((slot, table) :: installs) := by
  refine congrArg Vector.ofFn (funext fun any => ?_)
  rw [get_set, List.lookup_cons]
  by_cases same : any = slot
  · subst same
    have absent : installs.lookup any = none := by
      rw [List.lookup_eq_none_iff]
      intro install isInstall
      apply bne_iff_ne.2
      rintro rfl
      exact other (List.mem_map_of_mem isInstall)
    rw [absent, if_pos rfl, beq_self_eq_true]
    rfl
  · rw [if_neg same, beq_false_of_ne same]

end CoprocessorTables

namespace Builder

variable {builder : Builder σ ν} {installs : List (Fin 16 × CoprocessorTable σ ν)}

/-- Nothing is released where a table is installed in an empty slot, so tables may be installed in
any order. -/
theorem withCoprocessor_of_empty {slot : Fin 16} (empty : builder.coprocessors.get slot = none)
    (table : CoprocessorTable σ ν) :
    (builder.withCoprocessor slot table : Exec σ ν _) =
      pure (.ok { builder with coprocessors := builder.coprocessors.set slot (some table) }) := by
  have isEmpty : builder.coprocessors[slot.val] = none := empty
  unfold withCoprocessor
  rw [dif_pos slot.isLt, isEmpty]

/-- Tables that are installed in empty slots are in place afterwards, and nothing is told of it. -/
theorem installAll_eq (once : (installs.map Prod.fst).Nodup)
    (empty : ∀ slot ∈ installs.map Prod.fst, builder.coprocessors.get slot = none) :
    (builder.installAll installs : Exec σ ν _) =
      pure (.ok { builder with coprocessors := builder.coprocessors.installed installs }) := by
  induction installs generalizing builder with
  | nil =>
    have same : CoprocessorTables.installed builder.coprocessors [] = builder.coprocessors :=
      Vector.ofFn_getElem
    rw [same]
    rfl
  | cons install rest ih =>
    obtain ⟨slot, table⟩ := install
    obtain ⟨other, onceToo⟩ := List.nodup_cons.1 once
    rw [installAll, withCoprocessor_of_empty (empty slot (by simp)), pure_bind]
    dsimp only
    rw [ih onceToo, CoprocessorTables.installed_cons _ table other]
    intro another isOther
    have different : another ≠ slot := by
      rintro rfl
      exact other isOther
    rw [CoprocessorTables.get_set, if_neg different]
    exact empty another (List.mem_cons_of_mem slot isOther)

/-- What a wrapper is built from on the direct surface. -/
def direct (userData : UserData) (callbacks : CallbackTable σ ν) (pageTable : Option (PageTable σ))
    (installs : List (Fin 16 × CoprocessorTable σ ν)) : Builder σ ν :=
  { (Builder.new userData callbacks).withPageTable pageTable with
    coprocessors := Vector.ofFn fun slot => installs.lookup slot }

end Builder

/-- A life on the direct surface, with all tables installed beforehand. No install fails, since the
slots are in range. -/
theorem Wrapper.directLife_eq (perform : Performer σ ν) (userData : UserData)
    (callbacks : CallbackTable σ ν) (pageTable : Option (PageTable σ))
    {installs : List (Fin 16 × CoprocessorTable σ ν)} (once : (installs.map Prod.fst).Nodup)
    (engine : EngineChoice) (use : Handle → Activity σ ν ρ) :
    directLife perform userData callbacks pageTable installs engine use = (do
      match ← (Builder.direct userData callbacks pageTable installs).build perform engine with
      | .error error => return .error (.engineConstruction error)
      | .ok handle => return .ok (← live perform use handle)) := by
  have empty (slot : Fin 16) :
      Vector.get ((Builder.new userData callbacks).withPageTable pageTable).coprocessors slot = none :=
    Vector.getElem_replicate ..
  have installed : CoprocessorTables.installed
      ((Builder.new userData callbacks).withPageTable pageTable).coprocessors installs =
        Vector.ofFn fun slot => installs.lookup slot := by
    refine congrArg Vector.ofFn (funext fun slot => ?_)
    rw [empty, Option.or_none]
  unfold directLife
  dsimp only
  rw [Builder.installAll_eq once fun slot _ => empty slot, pure_bind, installed]
  rfl

/-- A life on the foreign surface builds from a builder, too. -/
theorem Wrapper.foreignLife_eq (perform : Performer σ ν) (userData : UserData)
    (callbacks : CallbackTable σ ν) (pageTable : Option (PageTable σ))
    (coprocessors : Option (Vector (WireOption (CoprocessorTable σ ν)) coprocessorCount))
    (engine : EngineChoice) (use : Handle → Activity σ ν ρ) :
    foreignLife perform userData callbacks pageTable coprocessors engine use = (do
      match ← (Command.foreignBuilder userData callbacks pageTable coprocessors).build perform engine with
      | .error error =>
        Exec.emit (.log (.constructorFailed (.engineConstruction error)))
        Exec.abort .constructionFailed
      | .ok handle => live perform use handle) := by
  unfold foreignLife
  rw [Command.construct_eq, bind_assoc]
  refine bind_congr fun result => ?_
  cases result with
  | ok handle => exact pure_bind _ _
  | error error => rfl

/-! ### How lives end -/

/-- What is destroyed if the engine of a life on the foreign surface cannot be constructed. The
builder on the direct surface destroys the same, but reports the failure afterwards. -/
def World.destroys (world : World σ ν) (userData : UserData) (callbacks : CallbackTable σ ν)
    (pageTable : Option (PageTable σ))
    (coprocessors : Option (Vector (WireOption (CoprocessorTable σ ν)) coprocessorCount)) :
    List (Event ν) :=
  ((Command.foreignBuilder userData callbacks pageTable coprocessors).configuration
    world.slots.allocate.1).releases

/-- How a life on the foreign surface ends, and how the one on the direct surface ends, as long as
no run is rejected. An engine that cannot be constructed ends everything on the foreign surface,
after `destroyed` has been told of; the direct surface reports it. -/
inductive LivesAlike (destroyed : List (Event ν)) : EStateM.Result Stop (World σ ν) (Handle × ρ) →
    EStateM.Result Stop (World σ ν) (Except AdapterError (Handle × ρ)) → Prop where
  | completed (life : Handle × ρ) {world other : World σ ν}
      (alike : world.Alike onDirect SameOnDirect other) :
      LivesAlike destroyed (.ok life world) (.ok (.ok life) other)
  | refused (error : EngineError) {world other : World σ ν} {earlier : List (Event ν)}
      (alike : world.Alike onDirect SameOnDirect other) (ends : world.history = earlier ++ destroyed) :
      LivesAlike destroyed
        (.error (.fatal .constructionFailed)
          (world.record (.log (.constructorFailed (.engineConstruction error)))))
        (.ok (.error (.engineConstruction error)) other)
  | stopped (stop : Stop) {world other : World σ ν} (alike : world.Alike onDirect SameOnDirect other) :
      LivesAlike destroyed (.error stop world) (.error stop other)

/-- A computation ended with a run that was rejected on the foreign surface. A history, told of the
direct surface, goes on from there: it tells of the same, and then that the rejected run was
reported. -/
def Exec.EndsRejected (computation : Exec σ ν α) (world : World σ ν) (history : List (Event ν)) : Prop :=
  ∃ after earlier handle script, computation world = .error (.fatal .reentrantRun) after ∧
    after.history = earlier ++ [.acting .foreign handle (.run script)] ∧
    (after.history ++ [Event.acted .foreign handle (.run script) .alreadyRunning]).map Event.onDirect <+:
      history.map Event.onDirect

/-- A life on the foreign surface refines one on the direct surface: it ends in the same way, or
with the first run that is rejected. -/
structure Exec.Refines (destroyed : List (Event ν)) (world other : World σ ν)
    (foreign : Exec σ ν (Handle × ρ)) (direct : Exec σ ν (Except AdapterError (Handle × ρ))) : Prop where
  ends : LivesAlike destroyed (foreign world) (direct other) ∨
    foreign.EndsRejected world (direct.finalWorld other).history
  unreported : Unreported (foreign.finalWorld world).history

namespace Builder

/-- If an engine is refused, its tables have been destroyed right before. -/
theorem history_of_refused {perform : Performer σ ν} {builder : Builder σ ν} {engine : EngineChoice}
    {error : EngineError} {world after : World σ ν}
    (refused : builder.build perform engine world = .ok (.error error) after) :
    ∃ earlier, after.history =
      earlier ++ (builder.configuration world.slots.allocate.1).releases := by
  obtain ⟨slot, _, allocates, refused⟩ := Exec.of_bind_ok refused
  obtain ⟨_, _, -, refused⟩ := Exec.of_bind_ok refused
  obtain ⟨result, constructed, -, refused⟩ := Exec.of_bind_ok refused
  have isSlot : slot = world.slots.allocate.1 := (EStateM.Result.ok.inj allocates).1.symm
  subst isSlot
  cases result with
  | ok engine =>
    obtain ⟨handle, _, -, built⟩ := Exec.of_bind_ok refused
    cases built
  | error reason =>
    obtain ⟨_, dropped, drops, ends⟩ := Exec.of_bind_ok refused
    have records := (builder.configuration world.slots.allocate.1).drop_records constructed
    rw [records] at drops
    obtain ⟨-, rfl⟩ := EStateM.Result.ok.inj drops
    obtain ⟨-, rfl⟩ := EStateM.Result.ok.inj ends
    exact ⟨constructed.history, World.history_recordAll ..⟩

/-- Two builders get tables that are alike, from an array and one by one. -/
theorem direct_alike {bodies : BodyRelation σ ν} (userData : UserData)
    {callbacks other : CallbackTable σ ν} (tables : bodies.Tables callbacks other)
    (pageTable : Option (PageTable σ))
    {coprocessors : Option (Vector (WireOption (CoprocessorTable σ ν)) coprocessorCount)}
    {installs : List (Fin 16 × CoprocessorTable σ ν)}
    (installed : bodies.Installs (Command.arrayTables coprocessors) installs) :
    bodies.Builders (Command.foreignBuilder userData callbacks pageTable coprocessors)
      (direct userData other pageTable installs) where
  userData := rfl
  callbacks := tables
  pageTable := rfl
  coprocessors := .mk fun slot => by
    have installedThere : (Builder.direct userData other pageTable installs).coprocessors[slot] =
        installs.lookup slot := Vector.getElem_ofFn ..
    rw [installedThere]
    exact installed.slots slot
  options := rfl

end Builder

/-! ### Both lives -/

section

variable {callbacks other : CallbackTable σ ν}
  {coprocessors : Option (Vector (WireOption (CoprocessorTable σ ν)) coprocessorCount)}
  {installs : List (Fin 16 × CoprocessorTable σ ν)} {use copy : Handle → Activity σ ν ρ}
  {perform counterpart : Performer σ ν}

/-- What is done with the wrapper between its construction and its deletion ends alike. -/
theorem Wrapper.live_alike (performs : perform.AlikeOnDirect counterpart)
    (uses : ∀ handle, (use handle).OnDirect (· = ·) (copy handle)) (handle : Handle) :
    Exec.AlikeOnDirect (· = ·) (live perform use handle) (live counterpart copy handle) := by
  apply ((uses handle).exec performs).bind_same
  intro answer
  exact (World.Alike.delete performs.likeness sameOnDirect_closed handle).bind_same fun _ => .pure rfl

/-- If rejected runs are reported on both surfaces, both lives go alike. They part only where the
engine is refused, which the foreign surface cannot report. -/
theorem Wrapper.lives_alike (performs : perform.AlikeOnDirect counterpart) (userData : UserData)
    (tables : onDirect.Tables callbacks other) (pageTable : Option (PageTable σ))
    (installed : onDirect.Installs (Command.arrayTables coprocessors) installs)
    (engine : EngineChoice) (uses : ∀ handle, (use handle).OnDirect (· = ·) (copy handle))
    {world second : World σ ν} (same : world.Alike onDirect SameOnDirect second) :
    LivesAlike (world.destroys userData callbacks pageTable coprocessors)
      (foreignLife perform userData callbacks pageTable coprocessors engine use world)
      (directLife counterpart userData other pageTable installs engine copy second) := by
  rw [foreignLife_eq, directLife_eq counterpart userData other pageTable installed.once]
  have builds := World.Alike.build performs.likeness sameOnDirect_closed
    (Builder.direct_alike userData tables pageTable installed) engine world second same
  rcases builds.cases with
    ⟨result, after, _, later, ends, endsToo, rfl, alike⟩ | ⟨stop, after, later, ends, endsToo, alike⟩
  · rw [Exec.bind_of_ok ends, Exec.bind_of_ok endsToo]
    cases result with
    | error error =>
      -- A refused engine ends both lives. The foreign one has no way to report that, so it tells of
      -- a failed construction and stops.
      obtain ⟨earlier, told⟩ := Builder.history_of_refused ends
      exact .refused error alike told
    | ok handle =>
      dsimp only
      rcases (live_alike performs uses handle after later alike).cases with
        ⟨life, deleted, _, deletedToo, lives, livesToo, rfl, alike⟩ |
          ⟨stop, final, finalToo, lives, livesToo, alike⟩
      · rw [lives, Exec.bind_of_ok livesToo]
        exact .completed life alike
      · rw [lives, Exec.bind_of_error livesToo]
        exact .stopped stop alike
  · rw [Exec.bind_of_error ends, Exec.bind_of_error endsToo]
    exact .stopped stop alike

end

/-- What a life on the foreign surface tells of actions, one on the direct surface tells of too. The
line about a failed construction is no action, so it does not count. -/
theorem LivesAlike.tells {destroyed : List (Event ν)} {foreign : Exec σ ν (Handle × ρ)}
    {direct : Exec σ ν (Except AdapterError (Handle × ρ))} {world other : World σ ν}
    (lives : LivesAlike destroyed (foreign world) (direct other)) {events : List (Event ν)}
    {surface : Surface} {handle : Handle} {action : Action} {reply : Reply}
    (told : events ++ [.acted surface handle action reply] <+: (foreign.finalWorld world).history) :
    (events ++ [Event.acted surface handle action reply]).map Event.onDirect <+:
      (direct.finalWorld other).history.map Event.onDirect := by
  unfold Exec.finalWorld at told ⊢
  generalize foreign world = end₁ at lives told
  generalize direct other = end₂ at lives ⊢
  have carried {first second : World σ ν} (alike : first.Alike onDirect SameOnDirect second)
      (isTold : events ++ [.acted surface handle action reply] <+: first.history) :
      (events ++ [Event.acted surface handle action reply]).map Event.onDirect <+:
        second.history.map Event.onDirect := by
    have same : first.history.map Event.onDirect = second.history.map Event.onDirect := alike.history
    rw [← same]
    exact isTold.map Event.onDirect
  cases lives with
  | completed life alike => exact carried alike told
  | stopped stop alike => exact carried alike told
  | refused error alike =>
    apply carried alike
    rw [World.history_record] at told
    rcases List.prefix_concat_iff.1 told with whole | earlier
    · have isLast := (List.append_inj' whole rfl).2
      cases isLast
    · exact earlier

theorem Wrapper.foreignLife_parallel {perform counterpart : Performer σ ν} (userData : UserData)
    (callbacks : CallbackTable σ ν) (pageTable : Option (PageTable σ))
    (coprocessors : Option (Vector (WireOption (CoprocessorTable σ ν)) coprocessorCount))
    (engine : EngineChoice) (use : Handle → Activity σ ν ρ) :
    (foreignLife perform userData callbacks pageTable coprocessors engine use).Parallel perform counterpart
      (foreignLife counterpart userData callbacks pageTable coprocessors engine use) :=
  .bind (construct_parallel userData callbacks pageTable coprocessors engine) fun handle =>
    .bind (Activity.exec_parallel (use handle)) fun _ => .bind (delete_parallel handle) fun _ => .pure _

/-- **Refinement of the surfaces.** A caller constructs a wrapper on the foreign surface from an
array of coprocessor tables, or from none, uses it on the foreign surface and deletes it. Another
caller does the same on the direct surface, where a builder gets the tables one by one, in any
order. Then both lives go alike, whatever the callbacks do in between, except that a refused engine
and a rejected run end everything on the foreign surface. -/
theorem surfaceRefinement (bound : Nat) (userData : UserData) {callbacks other : CallbackTable σ ν}
    (tables : onDirect.Tables callbacks other) (pageTable : Option (PageTable σ))
    {coprocessors : Option (Vector (WireOption (CoprocessorTable σ ν)) coprocessorCount)}
    {installs : List (Fin 16 × CoprocessorTable σ ν)}
    (installed : onDirect.Installs (Command.arrayTables coprocessors) installs) (engine : EngineChoice)
    {use copy : Handle → Activity σ ν ρ}
    (uses : ∀ handle, (use handle).OnDirect (· = ·) (copy handle)) {world second : World σ ν}
    (same : world.Alike onDirect SameOnDirect second) (unreported : Unreported world.history) :
    Exec.Refines (world.destroys userData callbacks pageTable coprocessors) world second
      (Wrapper.foreignLife (perform bound) userData callbacks pageTable coprocessors engine use)
      (Wrapper.directLife (perform bound) userData other pageTable installs engine copy) := by
  have curtails := Exec.Parallel.curtails (perform_curtails bound)
    (Wrapper.foreignLife_parallel userData callbacks pageTable coprocessors engine use) world
  have lives := Wrapper.lives_alike (performReporting_alikeOnDirect bound) userData tables pageTable
    installed engine uses same
  refine ⟨?_, curtails.strict unreported⟩
  rcases curtails.ends with asReported | ⟨after, rejected, earlier, handle, script, begun, told⟩
  · rw [asReported]
    exact .inl lives
  · exact .inr ⟨after, earlier, handle, script, rejected, begun, lives.tells told⟩

/-! ### A caller that runs a wrapper from its own callback -/

namespace Reentrant

/-- The guest only calls its supervisor, which tries to run the wrapper again and then halts it. -/
def callbacks (surface : Surface) : CallbackTable Unit Unit :=
  { CallbackTable.ofMemory (fun _ => Encoding.supervisorCall 7) 1 with
    supervisorCall := fun handle _ => .perform surface handle (.run none) fun _ =>
      .perform surface handle .halt fun _ => .finish () }

/-- The wrapper is run once. -/
def use (surface : Surface) (handle : Handle) : Activity Unit Unit Reply :=
  .act surface handle (.run none)

/-- A coprocessor that supports nothing. -/
def coprocessor (address : Nat) : CoprocessorTable Unit Unit :=
  HostCoprocessor.unsupporting.table ⟨address⟩

/-- Two slots of the array are populated. -/
def array : Vector (WireOption (CoprocessorTable Unit Unit)) coprocessorCount :=
  Vector.ofFn fun slot =>
    if slot = Fin.last 15 then .present (coprocessor 30)
    else if slot.val = 3 then .present (coprocessor 50)
    else .absent

/-- The same tables, the higher slot first. -/
def installs : List (Fin 16 × CoprocessorTable Unit Unit) :=
  [(Fin.last 15, coprocessor 30), ((Fin.last 3).castAdd 12, coprocessor 50)]

/-- The life of the wrapper on the foreign surface. -/
def foreign : Exec Unit Unit (Handle × Reply) :=
  Wrapper.foreignLife (perform 3) (.word 0) (callbacks .foreign) none (some array) .stepping (use .foreign)

/-- Its life on the direct surface. -/
def direct : Exec Unit Unit (Except AdapterError (Handle × Reply)) :=
  Wrapper.directLife (perform 3) (.word 0) (callbacks .direct) none installs .stepping (use .direct)

theorem coprocessor_alike (address : Nat) :
    onDirect.Coprocessors (coprocessor address) (coprocessor address) where
  context := rfl
  answers request := by
    cases request with
    | internalOperation | loadWords | storeWords => exact .finish ⟨rfl, fun _ => .operation .none⟩
    | sendOneWord | getOneWord => exact .finish ⟨rfl, fun _ => .oneWord .unsupported⟩
    | sendTwoWords | getTwoWords => exact .finish ⟨rfl, fun _ => .twoWords .unsupported⟩

/-- The two tables of callbacks differ in the surface on which the wrapper is run only. -/
theorem callbacks_alike : onDirect.Tables (callbacks .foreign) (callbacks .direct) := by
  intro request
  cases request with
  | isReadOnly => exact .none
  | supervisorCall =>
    exact .some fun _ => .perform fun _ => .perform fun _ => .finish rfl
  | read width => cases width <;> exact .some fun _ => .finish rfl
  | write width => cases width <;> exact .some fun _ => .finish rfl
  | exceptionRaised | addTicks | ticksRemaining => exact .some fun _ => .finish rfl

/-- The same tables are installed, once each. -/
theorem installed : onDirect.Installs (Command.arrayTables (some array)) installs where
  once := by decide
  slots slot := by
    have populated : (Command.arrayTables (some array))[slot] =
        if slot = Fin.last 15 then some (coprocessor 30)
        else if slot.val = 3 then some (coprocessor 50)
        else none := by
      simp only [Command.arrayTables, array, Fin.getElem_fin, Vector.getElem_map, Vector.getElem_ofFn]
      split
      · rfl
      · split <;> rfl
    rw [populated]
    by_cases isLast : slot = Fin.last 15
    · subst isLast
      exact .some (coprocessor_alike 30)
    · by_cases isThird : slot.val = 3
      · obtain rfl : slot = (Fin.last 3).castAdd 12 := Fin.ext isThird
        exact .some (coprocessor_alike 50)
      · have other : slot ≠ (Fin.last 3).castAdd 12 := fun same => isThird (congrArg Fin.val same)
        rw [if_neg isLast, if_neg isThird, installs, List.lookup_cons, List.lookup_cons,
          beq_false_of_ne isLast, beq_false_of_ne other]
        exact .none

/-- And the wrapper is used alike. -/
theorem use_alike (handle : Handle) : (use .foreign handle).OnDirect (· = ·) (use .direct handle) :=
  .perform fun _ => .finish rfl

end Reentrant

/-- A caller that runs its wrapper from its own callback ends fatally on the foreign surface, and is
told of it on the direct one. Up to there both lives go alike. -/
theorem surfaceRefinement_reentrant :
    (onDirect.Tables (Reentrant.callbacks .foreign) (Reentrant.callbacks .direct) ∧
      onDirect.Installs (Command.arrayTables (some Reentrant.array)) Reentrant.installs ∧
      ∀ handle, (Reentrant.use .foreign handle).OnDirect (· = ·) (Reentrant.use .direct handle)) ∧
    Exec.Refines ((World.initial () : World Unit Unit).destroys (.word 0) (Reentrant.callbacks .foreign)
      none (some Reentrant.array)) (.initial ()) (.initial ()) Reentrant.foreign Reentrant.direct ∧
    (∃ after, Reentrant.foreign (.initial ()) = .error (.fatal .reentrantRun) after) ∧
    Reentrant.direct.completes (.initial ()) := by
  refine ⟨⟨Reentrant.callbacks_alike, Reentrant.installed, Reentrant.use_alike⟩, ?_, ⟨_, rfl⟩, ?_⟩
  · apply surfaceRefinement 3 (.word 0) Reentrant.callbacks_alike none Reentrant.installed .stepping
      Reentrant.use_alike
    · exact ⟨rfl, rfl, rfl, rfl, fun _ => .none, rfl⟩
    · rintro _ _ ⟨⟩
  · decide +kernel

end RecompilerAdapter
