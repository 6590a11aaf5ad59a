import Remedy.Catalog.Rule
import Remedy.Command.Arguments
import Remedy.Command.Error
import Remedy.Config.Load
import Remedy.Console.Line
import Remedy.Decimal.Binary
import Remedy.Files.Disk
import Remedy.Knowledge.File
import Remedy.Report.Source
import Remedy.Rule.Load

/-! A command at work: the world it works in, what it has shown so far, and the engine it uses. -/

namespace Remedy

structure Surroundings (m : Type → Type) where
  disk : Disk m
  /-- The time at each reading of the clock. -/
  clock : Nat → Instant
  /-- Fresh names for attempts. -/
  attemptName : Nat → String

structure Session where
  /-- The knowledge that was read last. -/
  seen : Table Float
  shown : List Line

abbrev Task (m : Type → Type) (α : Type) := ExceptT CommandError (StateT Session m) α

namespace Task

variable {m : Type → Type} [Monad m] {α : Type}

def fail (e : CommandError) : Task m α := throw e

def print (lines : List Line) : Task m Unit := modify fun s => { s with shown := s.shown ++ lines }

def outside (step : m α) : Task m α := ExceptT.lift (StateT.lift step)

def action (step : Action (StateT (Table Float) m) α) : Task m α := ExceptT.mk fun s => do
  let (r, seen) ← step.run s.seen
  return (r.mapError .failed, { s with seen := seen })

def disk (message : String) (step : m (Except DiskError α)) : Task m α := do
  match ← outside step with
  | .ok a => return a
  | .error e => fail (.disk message e)

def run (task : Task m α) : m (List Line × Except CommandError α) := do
  let (r, s) ← ExceptT.run task ⟨.empty, []⟩
  return (s.shown, r)

end Task

namespace Command

variable {m : Type → Type} [Monad m]

def percent (x : Float) : String := Decimal.fixed "" 0 (x * 100.0) ++ "%"

abbrev CommandEngine (m : Type → Type) := Engine (StateT (Table Float) m) Float

def builtinBook : Task m (RuleBook Float) :=
  match (Catalog.book : Except DomainError (RuleBook Float)) with
  | .ok book => return book
  | .error e => Task.fail (.failed (.domain e))

def engine (around : Surroundings m) (knowledge : Path) (config : Config) : Task m (CommandEngine m) := do
  let file : KnowledgeFile m := ⟨around.disk, knowledge⟩
  let seen ← Task.action (file.load.lifted StateT.lift)
  modify fun s => { s with seen := seen }
  let (book, loaded) ← Task.outside (Pack.extend around.disk (← builtinBook) config.rulePaths)
  match loaded with
  | .error e => Task.fail (.failed e)
  | .ok _ => return ⟨file.store, book, some (around.disk.lifted StateT.lift).editor, config.settings⟩

def diagnostics (around : Surroundings m) (engine : CommandEngine m) (input : Input) : Task m (List Diagnostic) := do
  if !(← Task.outside (around.disk.isPresent input.path)) then Task.fail (.inputNotFound input.path)
  let found ← Task.action (engine.ingest (Report.source (around.disk.lifted StateT.lift) input.format input.path))
  if found.isEmpty then Task.fail (.noDiagnostics input.path)
  return found

def each {α β : Type} (step : α → Task m β) : List α → Task m (List β)
  | [] => return []
  | a :: rest => do
    let b ← step a
    return b :: (← each step rest)

end Command

end Remedy
