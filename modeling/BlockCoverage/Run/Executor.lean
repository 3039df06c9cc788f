import BlockCoverage.Run.Host

/-!
# Executors

An executor runs inputs under observation: in the same process, by calling a function, or in a
process that a command starts on a host. It lets observers prepare in order. If one fails, the
target does not run and nothing is collected. Otherwise the target runs, and every observer
collects.
-/

namespace BlockCoverage

open Text (Bytes)

/-- Runs a target on an input. -/
abbrev Target (σ : Type) := Bytes → σ → Status × σ

/-- A target that acts on a part of the state. -/
def Target.on {σ τ : Type} (t : Target σ) (p : Part τ σ) : Target τ := fun input => p.act (t input)

/-- What runs inputs under observation. -/
inductive Executor (σ : Type) where
  /-- There is no target. -/
  | idle
  /-- The target is a function, which is called. -/
  | inProcess (target : Target σ)
  /-- The target is a process that a command starts. -/
  | command (host : Host σ) (command : TargetCommand)

namespace Executor

variable {σ τ : Type}

/-- An executor that acts on a part of the state. -/
def on (e : Executor σ) (p : Part τ σ) : Executor τ :=
  match e with
  | .idle => .idle
  | .inProcess target => .inProcess (target.on p)
  | .command host c => .command (host.on p) c

/-- The status of a run without a target. -/
def noTarget : Status := .other "No target command configured"

/-- Runs one input under observation. -/
def execute (e : Executor σ) (observers : List (Observer σ)) (input : Bytes) (s : σ) : Status × σ :=
  match e with
  | .idle => (noTarget, s)
  | .inProcess target =>
    match Observer.prepare observers s with
    | (some failure, s) => (.observerError failure, s)
    | (none, s) =>
      let (status, s) := target input s
      Observer.close observers status s
  | .command host c => c.execute host observers input s

end Executor

end BlockCoverage
