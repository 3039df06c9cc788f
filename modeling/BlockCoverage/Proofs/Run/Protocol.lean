import BlockCoverage.Proofs.Run.Course

/-!
# The protocol between observers and runs

Which calls a run makes, in which order and how often, is said of a log. Observers, targets and
hosts can be made to log their calls, whatever state they keep (`Executor.logged`,
`Observer.loggedFrom`); the log is added to the state and changes nothing else. `Protocol` is what
the log of a run has to look like and what status belongs to it. It is put together from what each
part of a run logs: `Preparation` and `Collection` of its observers, and in between `Runs` of its
executor, with one case for every way in which a run comes to an end. The status of a run is what
its end in the log says.

Preparing and collecting are recursions over the observers, and waiting for a process is one over
the looks at it; what they log is found by induction along them (`prepare_logged`, `collect_logged`,
`Host.await_logged`). The rest is the course of a run, step by step (`Executor.course_logged`).
-/

namespace BlockCoverage

open Text (Bytes)

/-- A call that a run makes, with its result: observers by their place in the list, processes by
their number. -/
inductive Event where
  /-- An observer prepared, or failed to. -/
  | prepared (place : Nat) (failure : Option String)
  /-- A target that is a function was called, and has returned. -/
  | returned (status : Status)
  /-- A temporary file was made, or could not be. -/
  | madeTemp (result : Except IoCause Bytes)
  /-- The input was written to a temporary file, or could not be. -/
  | filled (path : Bytes) (fault : Option IoCause)
  /-- A process was started, or could not be. -/
  | spawned (result : Except IoCause Nat)
  /-- A process was handed its input, or did not take it. -/
  | fed (child : Nat) (fault : Option PipeFault)
  /-- A process was found to have ended or not, or it could not be found out. -/
  | polled (child : Nat) (result : Except IoCause (Option Exit))
  /-- A process was killed, or could not be. -/
  | killed (child : Nat) (fault : Option IoCause)
  /-- A killed process was waited for. -/
  | reaped (child : Nat)
  /-- An observer collected after a run with this status. -/
  | collected (place : Nat) (status : Status) (failure : Option String)
  /-- A temporary file was discarded. -/
  | discarded (path : Bytes)

variable {σ : Type}

/-! ## Logs -/

/-- The observer, logging its calls under a place. -/
def Observer.logged (place : Nat) (o : Observer σ) : Observer (σ × List Event) where
  name := o.name
  before := fun (s, log) =>
    let (failure, s) := o.before s
    (failure, s, log ++ [.prepared place failure])
  after := fun status (s, log) =>
    let (failure, s) := o.after status s
    (failure, s, log ++ [.collected place status failure])

/-- Observers that log under their places, counted from `n`. -/
def Observer.loggedFrom (n : Nat) (observers : List (Observer σ)) :
    List (Observer (σ × List Event)) :=
  (observers.zipIdx n).map fun e => e.1.logged e.2

/-- The target, logging that it has returned. -/
def Target.logged (target : Target σ) : Target (σ × List Event) := fun input (s, log) =>
  let (status, s) := target input s
  (status, s, log ++ [.returned status])

/-- The host, logging all that it does but for looking at the time. -/
def Host.logged (h : Host σ) : Host (σ × List Event) where
  makeTemp := fun (s, log) =>
    let (result, s) := h.makeTemp s
    (result, s, log ++ [.madeTemp result])
  fill := fun path input (s, log) =>
    let (fault, s) := h.fill path input s
    (fault, s, log ++ [.filled path fault])
  spawn := fun c extra stdin (s, log) =>
    let (result, s) := h.spawn c extra stdin s
    (result, s, log ++ [.spawned result])
  feed := fun child input (s, log) =>
    let (fault, s) := h.feed child input s
    (fault, s, log ++ [.fed child fault])
  poll := fun child (s, log) =>
    let (result, s) := h.poll child s
    (result, s, log ++ [.polled child result])
  lag := fun (s, log) =>
    let (lag, s) := h.lag s
    (lag, s, log)
  kill := fun child (s, log) =>
    let (fault, s) := h.kill child s
    (fault, s, log ++ [.killed child fault])
  reap := fun child (s, log) => (h.reap child s, log ++ [.reaped child])
  discard := fun path (s, log) => (h.discard path s, log ++ [.discarded path])

/-- The executor, logging what it does. -/
def Executor.logged : Executor σ → Executor (σ × List Event)
  | .idle => .idle
  | .inProcess target => .inProcess target.logged
  | .command host c => .command host.logged c

/-! ## The protocol -/

/-- What the observers of these names log when they prepare, counted from `n`, and the text of the
failure: they do so in order, up to the first that fails. -/
inductive Preparation (n : Nat) (names : List String) : Option String → List Event → Prop where
  /-- None fails. -/
  | all : Preparation n names none ((List.range' n names.length).map (.prepared · none))
  /-- One fails. -/
  | upTo (k : Nat) (hk : k < names.length) (failure : String) :
      Preparation n names (some ("Observer '" ++ names[k] ++ "' pre_exec failed: " ++ failure))
        ((List.range' n k).map (.prepared · none) ++ [.prepared (n + k) (some failure)])

/-- What the observers of these names failed with when they collected, and the text of the first
failure. -/
inductive Collection (names : List String) (failures : List (Option String)) : Option String →
  Prop where
  /-- None failed. -/
  | fine (hnone : ∀ failure ∈ failures, failure = none) : Collection names failures none
  /-- One failed, and none before it. -/
  | failed (k : Nat) (hk : k < names.length) (failure : String)
      (hbefore : ∀ j < k, failures[j]? = some none)
        (hfailure : failures[k]? = some (some failure)) :
      Collection names failures
        (some ("Observer '" ++ names[k] ++ "' post_exec failed: " ++ failure))

/-- What waiting for a process logs, and the status that it comes to. The process has ended, or is
killed and waited for, unless it cannot be found out how it is doing or it cannot be killed. -/
inductive Waiting (child : Nat) : List Event → Status → Prop where
  /-- It has ended by itself. -/
  | exited (exit : Exit) : Waiting child [.polled child (.ok (some exit))] (.ofExit exit)
  /-- It cannot be found out whether it has ended. -/
  | lost (cause : IoCause) : Waiting child [.polled child (.error cause)] (.lost cause)
  /-- Its time is up, and it is killed. -/
  | stopped : Waiting child
      [.polled child (.ok none), .killed child none, .reaped child] .timeout
  /-- Its time is up, and it cannot be killed. -/
  | stuck (cause : IoCause) : Waiting child
      [.polled child (.ok none), .killed child (some cause)] (.notKilled cause)
  /-- It has not ended, and is waited for further. -/
  | again {events : List Event} {status : Status} (h : Waiting child events status) :
      Waiting child (.polled child (.ok none) :: events) status

/-- What a process logs from start to end, by what goes to its standard input, and its status. -/
inductive Processing (c : TargetCommand) : Option Bytes → List Event → Status → Prop where
  /-- It could not be started. -/
  | notStarted {stdin : Option Bytes} (cause : IoCause) :
      Processing c stdin [.spawned (.error cause)] (.notStarted c cause)
  /-- It is waited for, with nothing to be handed over. -/
  | waited {child : Nat} {events : List Event} {status : Status} (h : Waiting child events status) :
      Processing c none (.spawned (.ok child) :: events) status
  /-- It is waited for, after it has taken its input. -/
  | fed {child : Nat} {events : List Event} {status : Status} (input : Bytes)
      (h : Waiting child events status) :
      Processing c (some input) (.spawned (.ok child) :: .fed child none :: events) status
  /-- It is waited for, after it has closed its input early. -/
  | closed {child : Nat} {events : List Event} {status : Status} (input : Bytes)
      (h : Waiting child events status) :
      Processing c (some input) (.spawned (.ok child) :: .fed child (some .closed) :: events) status
  /-- Its input could not be handed over; it is killed and waited for. -/
  | unfed (child : Nat) (input : Bytes) (cause : IoCause) (fault : Option IoCause) :
      Processing c (some input)
        [.spawned (.ok child), .fed child (some (.failed cause)), .killed child fault,
          .reaped child] (.notFed cause)

/-- What a command logs on an input before its observers collect, the temporary file that is left to
be discarded, and the status. -/
inductive Commanding (c : TargetCommand) (input : Bytes) :
    List Event → Option Bytes → Status → Prop where
  /-- There is no program. -/
  | noProgram (h : c.command = []) : Commanding c input [] none .noProgram
  /-- The input goes to the standard input of the process. -/
  | onInput {events : List Event} {status : Status} (hdelivery : c.delivery = .stdin)
      (h : Processing c (some input) events status) : Commanding c input events none status
  /-- No temporary file could be made. -/
  | noFile {template : String} (hdelivery : c.delivery = .file template) (cause : IoCause) :
      Commanding c input [.madeTemp (.error cause)] none (.noInputFile cause)
  /-- The input could not be written to the temporary file. -/
  | unwritten {template : String} (hdelivery : c.delivery = .file template) (path : Bytes)
      (cause : IoCause) :
      Commanding c input [.madeTemp (.ok path), .filled path (some cause)] (some path)
        (.inputNotWritten path cause)
  /-- The temporary file cannot be named in an argument. -/
  | unnameable {template : String} (hdelivery : c.delivery = .file template) (path : Bytes)
      (hpath : Text.Utf8.decode? path = none) :
      Commanding c input [.madeTemp (.ok path), .filled path none] (some path) .unnameableInput
  /-- The process finds its input in the temporary file. -/
  | onFile {template : String} {events : List Event} {status : Status}
      (hdelivery : c.delivery = .file template) (path : Bytes)
        (h : Processing c none events status) :
      Commanding c input (.madeTemp (.ok path) :: .filled path none :: events) (some path) status

/-- What an executor logs on an input before its observers collect, the temporary file that is left
to be discarded, and the status. -/
inductive Executor.Runs (input : Bytes) :
    Executor σ → List Event → Option Bytes → Status → Prop where
  /-- A function is called once. -/
  | called (target : Target σ) (status : Status) :
      Runs input (.inProcess target) [.returned status] none status
  /-- A command is run once. -/
  | command (host : Host σ) {c : TargetCommand} {events : List Event} {temp : Option Bytes}
      {status : Status} (h : Commanding c input events temp status) :
      Runs input (.command host c) events temp status

/-- The log of a run that the observers of these names prepared for: it takes its course, then every
observer collects with the status that was reached, whatever the others fail with, and then the
temporary file is discarded. -/
def runLog (names : List String) (events : List Event) (temp : Option Bytes) (status : Status)
    (failures : List (Option String)) : List Event :=
  (List.range names.length).map (.prepared · none) ++ events ++
    (failures.zipIdx.map fun e => .collected e.2 status e.1) ++ temp.toList.map .discarded

/-- What a run with observers of these names may log, and the status that it then has. -/
inductive Protocol (e : Executor σ) (names : List String) (input : Bytes) :
    List Event → Status → Prop where
  /-- There is no target, and nothing is called. -/
  | idle (h : e = .idle) : Protocol e names input [] Executor.noTarget
  /-- An observer failed to prepare. It is the last that is called, and the target is not run. -/
  | refused (h : e ≠ .idle) (k : Nat) (hk : k < names.length) (failure : String) :
      Protocol e names input
        ((List.range k).map (.prepared · none) ++ [.prepared k (some failure)])
        (.observerError ("Observer '" ++ names[k] ++ "' pre_exec failed: " ++ failure))
  /-- The status of the run stands, as it went badly or no observer failed to collect. -/
  | stands {events : List Event} {temp : Option Bytes} {status : Status}
      (hruns : e.Runs input events temp status) (failures : List (Option String))
      (hall : failures.length = names.length)
      (hstatus : status ≠ .ok ∨ ∀ failure ∈ failures, failure = none) :
      Protocol e names input (runLog names events temp status failures) status
  /-- The run went well, but an observer failed to collect; the first that did is named. -/
  | overruled {events : List Event} {temp : Option Bytes} (hruns : e.Runs input events temp .ok)
      (failures : List (Option String)) (hall : failures.length = names.length)
      (k : Nat) (hk : k < names.length) (failure : String)
      (hbefore : ∀ j < k, failures[j]? = some none)
      (hfailure : failures[k]? = some (some failure)) :
      Protocol e names input (runLog names events temp .ok failures)
        (.observerError ("Observer '" ++ names[k] ++ "' post_exec failed: " ++ failure))

/-! ## Processes have ended when observers collect -/

/-- The process was found to have ended, or was waited for after it was killed. -/
def Ended (child : Nat) (events : List Event) : Prop :=
  (∃ exit, .polled child (.ok (some exit)) ∈ events) ∨ .reaped child ∈ events

theorem Ended.mono {child : Nat} {events later : List Event} (h : Ended child events)
    (hle : events ⊆ later) : Ended child later :=
  h.imp (fun ⟨exit, hexit⟩ => ⟨exit, hle hexit⟩) (hle ·)

theorem Waiting.ended {child : Nat} {events : List Event} {status : Status}
    (h : Waiting child events status) :
    Ended child events ∨ (∃ cause, status = .lost cause) ∨ ∃ cause, status = .notKilled cause := by
  induction h with
  | exited exit => exact .inl (.inl ⟨exit, List.mem_singleton_self _⟩)
  | lost cause => exact .inr (.inl ⟨cause, rfl⟩)
  | stopped => exact .inl (.inr (by simp))
  | stuck cause => exact .inr (.inr ⟨cause, rfl⟩)
  | again h ih => exact ih.imp_left fun hended => hended.mono (List.subset_cons_self _ _)

theorem Waiting.spawned_not_mem {child : Nat} {events : List Event} {status : Status}
    (h : Waiting child events status) (result : Except IoCause Nat) : .spawned result ∉ events := by
  induction h with
  | exited | lost | stopped | stuck => simp
  | again h ih => simp [ih]

theorem Processing.ended {c : TargetCommand} {stdin : Option Bytes} {events : List Event}
    {status : Status} (h : Processing c stdin events status) {child : Nat}
    (hchild : .spawned (.ok child) ∈ events) :
    Ended child events ∨ (∃ cause, status = .lost cause) ∨ ∃ cause, status = .notKilled cause := by
  cases h with
  | notStarted cause => simp at hchild
  | @waited number events _ h | @fed number events _ input h | @closed number events _ input h =>
    have hmine : child = number := by simpa [h.spawned_not_mem] using hchild
    subst hmine
    exact h.ended.imp_left fun hended => hended.mono fun _ hevent => by simp [hevent]
  | unfed number input cause fault =>
    have hmine : child = number := by simpa using hchild
    subst hmine
    exact .inl (.inr (by simp))

/-- A process that was started has ended by the time that anything is collected, unless it could not
be found out how it was doing, or it could not be killed. -/
theorem Executor.Runs.ended {e : Executor σ} {input : Bytes} {events : List Event}
    {temp : Option Bytes} {status : Status} (h : e.Runs input events temp status) {child : Nat}
    (hchild : .spawned (.ok child) ∈ events) :
    Ended child events ∨ (∃ cause, status = .lost cause) ∨ ∃ cause, status = .notKilled cause := by
  cases h with
  | called target => simp at hchild
  | command host h =>
    cases h with
    | noProgram => cases hchild
    | onInput _ h => exact h.ended hchild
    | noFile | unwritten | unnameable => simp at hchild
    | @onFile _ events _ _ path h =>
      have hstarted : .spawned (.ok child) ∈ events := by simpa using hchild
      exact (h.ended hstarted).imp_left fun hended => hended.mono fun _ hevent => by simp [hevent]

/-! ## What observers log -/

/-- One more observer prepares without failure before the others do. -/
theorem Preparation.cons {n : Nat} {names : List String} {result : Option String}
    {events : List Event}
    (h : Preparation (n + 1) names result events) (name : String) :
    Preparation n (name :: names) result (.prepared n none :: events) := by
  cases h with
  | all => exact .all
  | upTo k hk failure =>
    have hk' : k + 1 < (name :: names).length := Nat.succ_lt_succ hk
    rw [show n + 1 + k = n + (k + 1) by omega]
    exact .upTo (k + 1) hk' failure

/-- One more observer collects without failure before the others do. -/
theorem Collection.cons {names : List String} {failures : List (Option String)}
    {result : Option String}
    (h : Collection names failures result) (name : String) :
    Collection (name :: names) (none :: failures) result := by
  cases h with
  | fine hnone => exact .fine (List.forall_mem_cons.mpr ⟨rfl, hnone⟩)
  | failed k hk failure hbefore hfailure =>
    have hk' : k + 1 < (name :: names).length := Nat.succ_lt_succ hk
    refine .failed (k + 1) hk' failure (fun j hj => ?_) hfailure
    cases j with
    | zero => rfl
    | succ j => exact hbefore j (Nat.lt_of_succ_lt_succ hj)

namespace Observer

theorem loggedFrom_cons (n : Nat) (o : Observer σ) (rest : List (Observer σ)) :
    loggedFrom n (o :: rest) = o.logged n :: loggedFrom (n + 1) rest := rfl

theorem prepare_logged (observers : List (Observer σ)) (n : Nat) (s : σ) (log : List Event) :
    ∃ events, Preparation n (observers.map name) (prepare observers s).1 events ∧
      prepare (loggedFrom n observers) (s, log) =
        ((prepare observers s).1, (prepare observers s).2, log ++ events) := by
  induction observers generalizing n s log with
  | nil => exact ⟨[], .all, by rw [List.append_nil]; rfl⟩
  | cons o rest ih =>
    obtain ⟨failure, s', hbefore⟩ : ∃ failure s', o.before s = (failure, s') := ⟨_, _, rfl⟩
    have hlogged : (o.logged n).before (s, log) = (failure, s', log ++ [.prepared n failure]) := by
      simp only [logged, hbefore]
    have hfirst : 0 < ((o :: rest).map name).length := Nat.zero_lt_succ _
    rw [loggedFrom_cons, prepare, prepare, hbefore, hlogged]
    cases failure with
    | some failure => exact ⟨_, .upTo 0 hfirst failure, rfl⟩
    | none =>
      obtain ⟨events, hevents, hrest⟩ := ih (n + 1) s' (log ++ [.prepared n none])
      refine ⟨.prepared n none :: events, hevents.cons o.name, ?_⟩
      simp only [hrest, List.append_assoc, List.singleton_append]

theorem collect_logged (status : Status) (observers : List (Observer σ)) (n : Nat) (s : σ)
    (log : List Event) :
    ∃ failures, failures.length = observers.length ∧
      Collection (observers.map name) failures (collect status observers s).1 ∧
      collect status (loggedFrom n observers) (s, log) =
        ((collect status observers s).1, (collect status observers s).2,
          log ++ (failures.zipIdx n).map fun e => .collected e.2 status e.1) := by
  induction observers generalizing n s log with
  | nil =>
    exact ⟨[], rfl, .fine (by simp), by rw [List.zipIdx_nil, List.map_nil, List.append_nil]; rfl⟩
  | cons o rest ih =>
    obtain ⟨failure, s', hafter⟩ : ∃ failure s', o.after status s = (failure, s') := ⟨_, _, rfl⟩
    have hlogged : (o.logged n).after status (s, log) =
        (failure, s', log ++ [.collected n status failure]) := by
      simp only [logged, hafter]
    obtain ⟨failures, hall, hresult, hrest⟩ := ih (n + 1) s' (log ++ [.collected n status failure])
    refine ⟨failure :: failures, by rw [List.length_cons, List.length_cons, hall], ?_, ?_⟩
    · have hfirst : 0 < ((o :: rest).map name).length := Nat.zero_lt_succ _
      simp only [collect, hafter]
      cases failure with
      | some failure => exact .failed 0 hfirst failure (fun j hj => nomatch hj) rfl
      | none => exact hresult.cons o.name
    · simp only [loggedFrom_cons, collect, hafter, hlogged, hrest, List.append_assoc,
        List.zipIdx_cons, List.map_cons, List.singleton_append]
      cases failure <;> rfl

end Observer

/-- The status that a run closes with, by what its observers failed with. -/
theorem Collection.protocol {e : Executor σ} {names : List String} {input : Bytes}
    {events : List Event} {temp : Option Bytes} {status : Status}
    {failures : List (Option String)} {result : Option String}
    (h : Collection names failures result) (hruns : e.Runs input events temp status)
    (hall : failures.length = names.length) :
    Protocol e names input (runLog names events temp status failures)
      (Observer.conclude status result) := by
  cases h with
  | fine hnone =>
    have hconclude : Observer.conclude status none = status := by cases status <;> rfl
    rw [hconclude]
    exact .stands hruns failures hall (.inr hnone)
  | failed k hk failure hbefore hfailure =>
    cases status with
    | ok => exact .overruled hruns failures hall k hk failure hbefore hfailure
    | timeout | crash _ | observerError _ | other _ =>
      exact .stands hruns failures hall (.inl nofun)

/-! ## What executors log -/

namespace Host

variable (h : Host σ) (child : Nat) (s : σ) (log : List Event)

@[simp] theorem makeTemp_logged :
    h.logged.makeTemp (s, log) =
      ((h.makeTemp s).1, (h.makeTemp s).2, log ++ [.madeTemp (h.makeTemp s).1]) := rfl

@[simp] theorem fill_logged (path input : Bytes) :
    h.logged.fill path input (s, log) =
      ((h.fill path input s).1, (h.fill path input s).2,
        log ++ [.filled path (h.fill path input s).1]) := rfl

@[simp] theorem spawn_logged (c : TargetCommand) (extra : List String) (stdin : Option Bytes) :
    h.logged.spawn c extra stdin (s, log) =
      ((h.spawn c extra stdin s).1, (h.spawn c extra stdin s).2,
        log ++ [.spawned (h.spawn c extra stdin s).1]) := rfl

@[simp] theorem feed_logged (input : Bytes) :
    h.logged.feed child input (s, log) =
      ((h.feed child input s).1, (h.feed child input s).2,
        log ++ [.fed child (h.feed child input s).1]) := rfl

@[simp] theorem poll_logged :
    h.logged.poll child (s, log) =
      ((h.poll child s).1, (h.poll child s).2, log ++ [.polled child (h.poll child s).1]) := rfl

@[simp] theorem lag_logged : h.logged.lag (s, log) = ((h.lag s).1, (h.lag s).2, log) := rfl

@[simp] theorem kill_logged :
    h.logged.kill child (s, log) =
      ((h.kill child s).1, (h.kill child s).2, log ++ [.killed child (h.kill child s).1]) := rfl

@[simp] theorem reap_logged :
    h.logged.reap child (s, log) = (h.reap child s, log ++ [.reaped child]) := rfl

theorem await_logged (timeout elapsed : Nat) :
    ∃ events, Waiting child events (h.await timeout child elapsed s).1 ∧
      h.logged.await timeout child elapsed (s, log) =
        ((h.await timeout child elapsed s).1, (h.await timeout child elapsed s).2,
          log ++ events) := by
  fun_induction h.await timeout child elapsed s generalizing log with
  | case1 elapsed s cause after hpoll =>
    refine ⟨_, .lost cause, ?_⟩
    rw [await, poll_logged, hpoll]
  | case2 elapsed s exit after hpoll =>
    refine ⟨_, .exited exit, ?_⟩
    rw [await, poll_logged, hpoll]
  | case3 elapsed s running hpoll lag late hlag htimeout cause after hkill =>
    refine ⟨_, .stuck cause, ?_⟩
    rw [await, poll_logged, hpoll]
    simp [hlag, htimeout, hkill]
  | case4 elapsed s running hpoll lag late hlag htimeout after hkill =>
    refine ⟨_, .stopped, ?_⟩
    rw [await, poll_logged, hpoll]
    simp [hlag, htimeout, hkill]
  | case5 elapsed s running hpoll lag late hlag htimeout ih =>
    obtain ⟨events, hevents, hlogged⟩ := ih (log ++ [.polled child (.ok none)])
    refine ⟨_, .again hevents, ?_⟩
    rw [await, poll_logged, hpoll]
    simp only [lag_logged, hlag, if_neg htimeout, hlogged, List.append_assoc,
      List.singleton_append]

end Host

namespace TargetCommand

variable (h : Host σ) (c : TargetCommand) (s : σ) (log : List Event)

theorem process_logged (extra : List String) (stdin : Option Bytes) :
    ∃ events, Processing c stdin events (c.process h extra stdin s).1 ∧
      c.process h.logged extra stdin (s, log) =
        ((c.process h extra stdin s).1, (c.process h extra stdin s).2, log ++ events) := by
  simp only [process, Host.spawn_logged]
  rcases h.spawn c extra stdin s with ⟨cause | child, s⟩
  · exact ⟨_, .notStarted cause, rfl⟩
  cases stdin with
  | none =>
    obtain ⟨events, hevents, hlogged⟩ :=
      h.await_logged child s (log ++ [.spawned (.ok child)]) c.timeout 0
    refine ⟨_, .waited hevents, ?_⟩
    simp only [Host.hand, hlogged, List.append_assoc, List.singleton_append]
  | some input =>
    simp only [Host.hand, Host.feed_logged]
    rcases h.feed child input s with ⟨fault, s⟩
    obtain ⟨events, hevents, hlogged⟩ :=
      h.await_logged child s (log ++ [.spawned (.ok child)] ++ [.fed child fault]) c.timeout 0
    rcases fault with _ | (_ | cause)
    · refine ⟨_, .fed input hevents, hlogged.trans ?_⟩
      rw [List.append_assoc, List.append_assoc]
      rfl
    · refine ⟨_, .closed input hevents, hlogged.trans ?_⟩
      rw [List.append_assoc, List.append_assoc]
      rfl
    · refine ⟨_, .unfed child input cause (h.kill child s).1, ?_⟩
      simp only [Host.kill_logged, Host.reap_logged, List.append_assoc]
      rfl

theorem course_logged (input : Bytes) :
    let taken := c.course h input s
    ∃ events, Commanding c input events taken.temp taken.status ∧
      c.course h.logged input (s, log) =
        ⟨taken.status, (taken.state, log ++ events), taken.temp⟩ := by
  simp only [course]
  by_cases hempty : c.command.isEmpty = true
  · simp only [if_pos hempty]
    exact ⟨[], .noProgram (List.isEmpty_iff.mp hempty), by rw [List.append_nil]⟩
  simp only [if_neg hempty]
  cases hdelivery : c.delivery with
  | stdin =>
    obtain ⟨events, hevents, hlogged⟩ := c.process_logged h s log [] (some input)
    exact ⟨events, .onInput hdelivery hevents, by simp only [hlogged]⟩
  | file template =>
    simp only [Host.makeTemp_logged]
    rcases h.makeTemp s with ⟨cause | path, s⟩
    · exact ⟨_, .noFile hdelivery cause, rfl⟩
    simp only [processOnFile, Host.fill_logged]
    rcases h.fill path input s with ⟨_ | cause, s⟩
    · cases hpath : Text.Utf8.decode? path with
      | none =>
        refine ⟨_, .unnameable hdelivery path hpath, ?_⟩
        rw [List.append_assoc]
        rfl
      | some name =>
        obtain ⟨events, hevents, hlogged⟩ := c.process_logged h s
          (log ++ [.madeTemp (.ok path)] ++ [.filled path none])
          (InputDelivery.fileArguments template name) none
        refine ⟨_, .onFile hdelivery path hevents, ?_⟩
        simp only [hlogged]
        rw [List.append_assoc, List.append_assoc]
        rfl
    · refine ⟨_, .unwritten hdelivery path cause, ?_⟩
      rw [List.append_assoc]
      rfl

end TargetCommand

namespace Executor

variable {e : Executor σ} {input : Bytes} {s : σ}

theorem course_logged {c : Course σ} (hcourse : e.course input s = some c) (log : List Event) :
    ∃ events, e.Runs input events c.temp c.status ∧
      e.logged.course input (s, log) = some ⟨c.status, (c.state, log ++ events), c.temp⟩ := by
  cases e with
  | idle => cases hcourse
  | inProcess target =>
    obtain rfl := Option.some.inj hcourse
    exact ⟨_, .called target _, rfl⟩
  | command host command =>
    obtain rfl := Option.some.inj hcourse
    obtain ⟨events, hevents, hlogged⟩ := command.course_logged host s log input
    exact ⟨events, .command host hevents, congrArg some hlogged⟩

theorem Runs.clear_logged {events : List Event} {temp : Option Bytes} {status : Status}
    (h : e.Runs input events temp status) (log : List Event) :
    e.logged.clear temp (s, log) = (e.clear temp s, log ++ temp.toList.map .discarded) := by
  have hnone : (s, log) = (s, log ++ []) := by rw [List.append_nil]
  cases h with
  | called => exact hnone
  | command host h =>
    cases temp with
    | none => exact hnone
    | some path => rfl

end Executor

/-! ## Runs follow the protocol -/

namespace Observer

/-- Every run follows the protocol, whatever the observers keep and fail with: without a target, of
a target that is called, and of a command on any host, on every way in which it comes to an end. The
log that tells so changes neither the status nor what the run does to the state. -/
theorem follows_protocol (e : Executor σ) (observers : List (Observer σ)) (input : Bytes) (s : σ) :
    ∃ status after log, e.execute observers input s = (status, after) ∧
      e.logged.execute (loggedFrom 0 observers) input (s, []) = (status, after, log) ∧
      Protocol e (observers.map name) input log status := by
  by_cases hidle : e = .idle
  · subst hidle
    exact ⟨_, _, [], rfl, rfl, .idle rfl⟩
  have hlogged : e.logged ≠ .idle := by
    cases e with
    | idle => exact absurd rfl hidle
    | inProcess target => exact nofun
    | command host c => exact nofun
  obtain ⟨events, hevents, hprepare⟩ := prepare_logged observers 0 s []
  rw [List.nil_append] at hprepare
  obtain ⟨result, ready, hready⟩ : ∃ result ready, prepare observers s = (result, ready) :=
    ⟨_, _, rfl⟩
  rw [hready] at hevents hprepare
  cases hevents with
  | upTo k hk failure =>
    have hplaces : List.range' 0 k = List.range k := List.range_eq_range'.symm
    rw [hplaces, Nat.zero_add] at hprepare
    exact ⟨_, _, _, Executor.execute_of_refused hidle hready,
      Executor.execute_of_refused hlogged hprepare, .refused hidle k hk failure⟩
  | all =>
    have hplaces : List.range' 0 (observers.map name).length =
        List.range (observers.map name).length := List.range_eq_range'.symm
    rw [hplaces] at hprepare
    obtain ⟨c, hcourse⟩ : ∃ c, e.course input ready = some c :=
      Option.ne_none_iff_exists'.mp fun hnone => hidle (Executor.course_eq_none_iff.mp hnone)
    obtain ⟨events, hruns, hcourse'⟩ := Executor.course_logged hcourse
      ((List.range (observers.map name).length).map (.prepared · none))
    obtain ⟨failures, hall, hcollection, hcollect⟩ := collect_logged c.status observers 0 c.state
      ((List.range (observers.map name).length).map (.prepared · none) ++ events)
    replace hall : failures.length = (observers.map name).length := by rw [hall, List.length_map]
    refine ⟨_, _, _, Executor.execute_of_prepared hready hcourse, ?_,
      hcollection.protocol hruns hall⟩
    rw [Executor.execute_of_prepared hprepare hcourse']
    simp only [close, hcollect, hruns.clear_logged, runLog]

/-- The second of three observers fails to collect after a command; the third collects all the same,
with the same status, once the process has ended. -/
example :
    let quiet : Observer Unit := ⟨"quiet", fun s => (none, s), fun _ s => (none, s)⟩
    let full : Observer Unit := ⟨"full", fun s => (none, s), fun _ s => (some "no room", s)⟩
    let host : Host Unit :=
      ⟨fun s => (.ok [], s), fun _ _ s => (none, s), fun _ _ _ s => (.ok 7, s),
      fun _ _ s => (some .closed, s), fun _ s => (.ok (some (.code 0)), s), fun s => (0, s),
      fun _ s => (none, s), fun _ s => s, fun _ s => s⟩
    let c : TargetCommand := ⟨["true"], .stdin, 1000, none, []⟩
    (Executor.command host.logged c).execute (loggedFrom 0 [quiet, full, quiet]) [] ((), []) =
      (.observerError "Observer 'full' post_exec failed: no room", (),
        [.prepared 0 none, .prepared 1 none, .prepared 2 none, .spawned (.ok 7),
          .fed 7 (some .closed), .polled 7 (.ok (some (.code 0))), .collected 0 .ok none,
          .collected 1 .ok (some "no room"), .collected 2 .ok none]) := by
  cbv

end Observer

end BlockCoverage
