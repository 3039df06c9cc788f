import BlockCoverage.Run.Status
import BlockCoverage.Text.Utf8

/-!
# Observers

An observer looks at one run: it prepares before the target starts and collects once it has stopped.
Observers and targets act on a shared state `σ`, in which each observer finds what it keeps, so any
observer with any memory can be described.

Observers prepare in order, up to the first that fails. They all collect, in order and with the
status of the run, whatever the others do. A failure to collect only replaces the status of a run
that went well.
-/

namespace BlockCoverage

open Text (Bytes)

/-- A part of a state, which can be looked at and changed by itself. -/
structure Part (τ σ : Type) where
  /-- The part as it is. -/
  get : τ → σ
  /-- The state with another part. -/
  set : σ → τ → τ
  /-- What has been put there is found there. -/
  get_set : ∀ s t, get (set s t) = s
  /-- Putting back what is there changes nothing. -/
  set_get : ∀ t, set (get t) t = t
  /-- What is put there last counts. -/
  set_set : ∀ s s' t, set s (set s' t) = set s t

namespace Part

variable {σ τ α : Type}

/-- Does to the whole what is done to the part. -/
def act (p : Part τ σ) (action : σ → α × σ) (t : τ) : α × τ :=
  let (a, s) := action (p.get t)
  (a, p.set s t)

/-- Changes the part. -/
def map (p : Part τ σ) (change : σ → σ) (t : τ) : τ := p.set (change (p.get t)) t

/-- The first of two states. -/
def first : Part (σ × τ) σ where
  get := Prod.fst
  set := fun s t => (s, t.2)
  get_set := fun _ _ => rfl
  set_get := fun _ => rfl
  set_set := fun _ _ _ => rfl

end Part

/-- What looks at runs that act on `σ`. A failure is given by its text. -/
structure Observer (σ : Type) where
  /-- The name in messages. -/
  name : String
  /-- Prepares for a run. -/
  before : σ → Option String × σ
  /-- Collects after a run with the given status. -/
  after : Status → σ → Option String × σ

namespace Observer

variable {σ τ : Type}

/-- An observer of a part of the state. -/
def on (o : Observer σ) (p : Part τ σ) : Observer τ where
  name := o.name
  before := p.act o.before
  after := fun status => p.act (o.after status)

/-- Lets observers prepare, up to the first failure. -/
def prepare : List (Observer σ) → σ → Option String × σ
  | [], s => (none, s)
  | o :: rest, s =>
    match o.before s with
    | (some failure, s) => (some ("Observer '" ++ o.name ++ "' pre_exec failed: " ++ failure), s)
    | (none, s) => prepare rest s

/-- Lets every observer collect, and gives the first failure. -/
def collect (status : Status) : List (Observer σ) → σ → Option String × σ
  | [], s => (none, s)
  | o :: rest, s =>
    let (failure, s) := o.after status s
    let (later, s) := collect status rest s
    match failure with
    | some failure => (some ("Observer '" ++ o.name ++ "' post_exec failed: " ++ failure), s)
    | none => (later, s)

/-- The status of a run whose observers have collected. -/
def conclude (status : Status) (failure : Option String) : Status :=
  match status, failure with
  | .ok, some text => .observerError text
  | status, _ => status

/-- Lets every observer collect, and gives the status of the run. -/
def close (observers : List (Observer σ)) (status : Status) (s : σ) : Status × σ :=
  let (failure, s) := collect status observers s
  (conclude status failure, s)

end Observer

end BlockCoverage
