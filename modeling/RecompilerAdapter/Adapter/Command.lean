/-
Module: RecompilerAdapter.Adapter.Command
Purpose: Sessions of a caller. A session is a list of commands: builders are opened, changed, dropped and
  built from, wrappers are built and deleted, and in between the caller runs code of its own, in which it
  may act on wrappers just as in a callback. Builders are known by numbers, wrappers by handles. The
  caller is a parameter, so a statement about all command lists is a statement about all sessions of all
  callers.
Trusted boundary: the definitions of this module
Main exports: Command, Outcome, Command.exec, Command.execAll
-/
import RecompilerAdapter.Adapter.Builder

namespace RecompilerAdapter

/-- The builders of a session by number. -/
abbrev Builders (σ ν : Type) : Type :=
  Registry Nat (Builder σ ν)

/-- A command of a session. The caller's own code ends with an answer of type `ρ`. -/
inductive Command (σ ν ρ : Type) where
  /-- Opens a builder. A builder that had the number before is dropped. -/
  | openBuilder (number : Nat) (userData : UserData) (callbacks : CallbackTable σ ν)
  | usePageTable (number : Nat) (pageTable : Option (PageTable σ))
  | useOptions (number : Nat) (options : Options)
  | installCoprocessor (number slot : Nat) (table : CoprocessorTable σ ν)
  | installCoprocessors (number : Nat) (tables : CoprocessorTables σ ν)
  | dropBuilder (number : Nat)
  | build (number : Nat) (engine : EngineChoice)
  /-- Builds a wrapper on the foreign surface. -/
  | construct (userData : UserData) (callbacks : CallbackTable σ ν)
      (pageTable : Option (PageTable σ))
      (coprocessors : Option (Vector (WireOption (CoprocessorTable σ ν)) coprocessorCount))
      (engine : EngineChoice)
  | delete (handle : Handle)
  /-- Runs code of the caller. -/
  | call (body : Activity σ ν ρ)

/-- What a command yields. -/
inductive Outcome (ρ : Type) where
  | done
  | refused (error : AdapterError)
  | built (handle : Handle)
  | answered (answer : ρ)
deriving Repr, DecidableEq

namespace Command

variable {σ ν ρ : Type}

/-- The builder of a number. -/
def find (builders : Builders σ ν) (number : Nat) : Exec σ ν (Builder σ ν) :=
  match builders.get? number with
  | some builder => return builder
  | none => throw (.unknownNumber number)

/-- Changes a builder by something that cannot fail. -/
def change (builders : Builders σ ν) (number : Nat) (update : Builder σ ν → Builder σ ν) :
    Exec σ ν (Outcome ρ × Builders σ ν) := do
  return (.done, builders.insert number (update (← find builders number)))

/-- Carries out a command. A builder is gone when a slot number is rejected and when it was built
from, successfully or not. -/
def exec (perform : Performer σ ν) (builders : Builders σ ν) :
    Command σ ν ρ → Exec σ ν (Outcome ρ × Builders σ ν)
  | .openBuilder number userData callbacks => do
    (builders.get? number).forM Builder.release
    return (.done, builders.insert number (.new userData callbacks))
  | .usePageTable number pageTable =>
    change builders number fun builder => builder.withPageTable pageTable
  | .useOptions number options => change builders number fun builder => builder.withOptions options
  | .installCoprocessor number slot table => do
    match ← (← find builders number).withCoprocessor slot table with
    | .ok builder => return (.done, builders.insert number builder)
    | .error error => return (.refused error, builders.erase number)
  | .installCoprocessors number tables => do
    let builder ← (← find builders number).withCoprocessors tables
    return (.done, builders.insert number builder)
  | .dropBuilder number => do
    (← find builders number).release
    return (.done, builders.erase number)
  | .build number engine => do
    match ← (← find builders number).build perform engine with
    | .ok handle => return (.built handle, builders.erase number)
    | .error error => return (.refused (.engineConstruction error), builders.erase number)
  | .construct userData callbacks pageTable coprocessors engine => do
    let handle ← Wrapper.construct perform userData callbacks pageTable coprocessors engine
    return (.built handle, builders)
  | .delete handle => do
    Wrapper.delete handle
    return (.done, builders)
  | .call body => return (.answered (← body.exec perform), builders)

/-- Carries out commands in their order. -/
def execAll (perform : Performer σ ν) :
    Builders σ ν → List (Command σ ν ρ) → Exec σ ν (List (Outcome ρ) × Builders σ ν)
  | builders, [] => return ([], builders)
  | builders, command :: commands => do
    let (outcome, builders) ← command.exec perform builders
    let (outcomes, builders) ← execAll perform builders commands
    return (outcome :: outcomes, builders)

end Command

end RecompilerAdapter
