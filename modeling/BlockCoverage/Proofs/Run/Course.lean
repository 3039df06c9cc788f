import BlockCoverage.Run.Executor

/-!
# The course of a run

A run takes its course between two calls of its observers: they prepare before it, and collect once
it has reached a status, whichever way it came to an end. The definitions let every exit of a
command close the run by itself. Here the course is a function of its own that knows of no observers
(`TargetCommand.course`), and what all the exits share is proved once: they close the run with the
status of the course, and discard its temporary file afterwards (`TargetCommand.perform_eq`,
`Executor.execute_of_prepared`).

What can be said of a course from what is known of each operation is then said by going through the
definition once. Two executors whose operations agree on related states take related courses
(`Executor.course_related`).
-/

namespace BlockCoverage

open Text (Bytes)

/-- What a run has come to when its observers collect. -/
structure Course (σ : Type) where
  /-- The status that it has reached. -/
  status : Status
  /-- The state that the observers find. -/
  state : σ
  /-- The temporary file that is discarded once they have collected. -/
  temp : Option Bytes

variable {σ τ α : Type}

namespace TargetCommand

/-- Starts the process of a command, hands over what goes to its standard input, and waits for
it. -/
def process (h : Host σ) (c : TargetCommand) (extra : List String) (stdin : Option Bytes) (s : σ) :
    Status × σ :=
  match h.spawn c extra stdin s with
  | (.error cause, s) => (.notStarted c cause, s)
  | (.ok child, s) =>
    match h.hand child stdin s with
    | (some (.failed cause), s) => (.notFed cause, h.reap child (h.kill child s).2)
    | (some .closed, s) | (none, s) => h.await c.timeout child 0 s

/-- Runs the process of a command on an input that goes into the temporary file at a path. -/
def processOnFile (h : Host σ) (c : TargetCommand) (template : String) (path input : Bytes)
    (s : σ) : Status × σ :=
  match h.fill path input s with
  | (some cause, s) => (.inputNotWritten path cause, s)
  | (none, s) =>
    match Text.Utf8.decode? path with
    | none => (.unnameableInput, s)
    | some path => c.process h (InputDelivery.fileArguments template path) none s

/-- The course of a command on an input. -/
def course (h : Host σ) (c : TargetCommand) (input : Bytes) (s : σ) : Course σ :=
  if c.command.isEmpty then ⟨.noProgram, s, none⟩
  else match c.delivery with
    | .stdin =>
      let (status, s) := c.process h [] (some input) s
      ⟨status, s, none⟩
    | .file template =>
      match h.makeTemp s with
      | (.error cause, s) => ⟨.noInputFile cause, s, none⟩
      | (.ok path, s) =>
        let (status, s) := c.processOnFile h template path input s
        ⟨status, s, some path⟩

end TargetCommand

/-- Discards the temporary file of a run, if it had one. -/
def Host.clear (h : Host σ) (temp : Option Bytes) (s : σ) : σ :=
  match temp with
  | none => s
  | some path => h.discard path s

namespace Executor

/-- The course that a run takes from a state in which its observers have prepared. There is none
without a target. -/
def course : Executor σ → Bytes → σ → Option (Course σ)
  | .idle, _, _ => none
  | .inProcess target, input, s => some ⟨(target input s).1, (target input s).2, none⟩
  | .command host c, input, s => some (c.course host input s)

/-- Discards the temporary file of a run, if it had one. -/
def clear : Executor σ → Option Bytes → σ → σ
  | .command host _, temp, s => host.clear temp s
  | _, _, s => s

end Executor

/-! ## Runs and their courses -/

namespace TargetCommand

variable (h : Host σ) (c : TargetCommand) (observers : List (Observer σ))

theorem launch_eq (extra : List String) (stdin : Option Bytes) (s : σ) :
    c.launch h observers extra stdin s =
      Observer.close observers (c.process h extra stdin s).1 (c.process h extra stdin s).2 := by
  rw [launch, process]
  rcases h.spawn c extra stdin s with ⟨_ | child, s⟩
  · rfl
  · simp only
    rcases h.hand child stdin s with ⟨_ | (_ | cause), s⟩ <;> rfl

theorem launchOnFile_eq (template : String) (path input : Bytes) (s : σ) :
    c.launchOnFile h observers template path input s =
      Observer.close observers (c.processOnFile h template path input s).1
        (c.processOnFile h template path input s).2 := by
  rw [launchOnFile, processOnFile]
  rcases h.fill path input s with ⟨_ | cause, s⟩
  · simp only
    cases Text.Utf8.decode? path with
    | none => rfl
    | some path => exact c.launch_eq h observers _ none s
  · rfl

/-- Every exit of a command closes the run for its observers, and only then discards its file. -/
theorem perform_eq (input : Bytes) (s : σ) :
    let taken := c.course h input s
    let closed := Observer.close observers taken.status taken.state
    c.perform h observers input s = (closed.1, h.clear taken.temp closed.2) := by
  rw [perform, course]
  by_cases hempty : c.command.isEmpty = true
  · rw [if_pos hempty, if_pos hempty]
    rfl
  rw [if_neg hempty, if_neg hempty]
  cases c.delivery with
  | stdin => exact c.launch_eq h observers [] (some input) s
  | file template =>
    simp only
    rcases h.makeTemp s with ⟨cause | path, s⟩
    · rfl
    · simp only [launchOnFile_eq]
      rfl

end TargetCommand

namespace Executor

variable {e : Executor σ} {observers : List (Observer σ)} {input : Bytes} {s s' : σ}

theorem course_eq_none_iff : e.course input s = none ↔ e = .idle := by
  cases e <;> simp [course]

/-- If an observer fails to prepare, the run takes no course. -/
theorem execute_of_refused (he : e ≠ .idle) {failure : String}
    (hprepare : Observer.prepare observers s = (some failure, s')) :
    e.execute observers input s = (.observerError failure, s') := by
  cases e with
  | idle => exact absurd rfl he
  | inProcess target => simp only [execute, hprepare]
  | command host c => simp only [execute, TargetCommand.execute, hprepare]

/-- Once its observers have prepared, a run takes its course, they collect, and its temporary file
is discarded. -/
theorem execute_of_prepared {c : Course σ}
    (hprepare : Observer.prepare observers s = (none, s')) (hcourse : e.course input s' = some c) :
    let closed := Observer.close observers c.status c.state
    e.execute observers input s = (closed.1, e.clear c.temp closed.2) := by
  cases e with
  | idle => cases hcourse
  | inProcess target =>
    obtain rfl := Option.some.inj hcourse
    simp only [execute, hprepare]
    rfl
  | command host command =>
    obtain rfl := Option.some.inj hcourse
    simp only [execute, TargetCommand.execute, hprepare, TargetCommand.perform_eq]
    rfl

end Executor

/-! ## Related courses -/

/-- The results are the same and the states after them are related. -/
def Agree (R : σ → τ → Prop) (x : α × σ) (y : α × τ) : Prop := x.1 = y.1 ∧ R x.2 y.2

theorem Agree.exists_eq {R : σ → τ → Prop} {x : α × σ} {y : α × τ} (h : Agree R x y) {a : α}
    {s : σ} (hx : x = (a, s)) : ∃ t, y = (a, t) ∧ R s t := by
  subst hx
  exact ⟨y.2, Prod.ext h.1.symm rfl, h.2⟩

/-- Every operation gives the same answer on related states and leaves related states. -/
structure Host.Related (R : σ → τ → Prop) (h : Host σ) (g : Host τ) : Prop where
  makeTemp : ∀ {s t}, R s t → Agree R (h.makeTemp s) (g.makeTemp t)
  fill : ∀ path input {s t}, R s t → Agree R (h.fill path input s) (g.fill path input t)
  spawn : ∀ c extra stdin {s t}, R s t → Agree R (h.spawn c extra stdin s) (g.spawn c extra stdin t)
  feed : ∀ child input {s t}, R s t → Agree R (h.feed child input s) (g.feed child input t)
  poll : ∀ child {s t}, R s t → Agree R (h.poll child s) (g.poll child t)
  lag : ∀ {s t}, R s t → Agree R (h.lag s) (g.lag t)
  kill : ∀ child {s t}, R s t → Agree R (h.kill child s) (g.kill child t)
  reap : ∀ child {s t}, R s t → R (h.reap child s) (g.reap child t)
  discard : ∀ path {s t}, R s t → R (h.discard path s) (g.discard path t)

/-- The same course on related states. -/
structure Course.Related (R : σ → τ → Prop) (c : Course σ) (d : Course τ) : Prop where
  status : c.status = d.status
  state : R c.state d.state
  temp : c.temp = d.temp

namespace Host.Related

variable {R : σ → τ → Prop} {h : Host σ} {g : Host τ} {s : σ} {t : τ}

theorem hand (hhg : h.Related R g) (child : Nat) (stdin : Option Bytes) (hst : R s t) :
    Agree R (h.hand child stdin s) (g.hand child stdin t) := by
  cases stdin with
  | none => exact ⟨rfl, hst⟩
  | some input => exact hhg.feed child input hst

theorem await (hhg : h.Related R g) (timeout child elapsed : Nat) (hst : R s t) :
    Agree R (h.await timeout child elapsed s) (g.await timeout child elapsed t) := by
  fun_induction h.await timeout child elapsed s generalizing t with
  | case1 elapsed s cause after hpoll =>
    obtain ⟨after', hpoll', hafter⟩ := (hhg.poll child hst).exists_eq hpoll
    rw [Host.await, hpoll']
    exact ⟨rfl, hafter⟩
  | case2 elapsed s exit after hpoll =>
    obtain ⟨after', hpoll', hafter⟩ := (hhg.poll child hst).exists_eq hpoll
    rw [Host.await, hpoll']
    exact ⟨rfl, hafter⟩
  | case3 elapsed s running hpoll lag late hlag htimeout cause after hkill =>
    obtain ⟨running', hpoll', hrunning⟩ := (hhg.poll child hst).exists_eq hpoll
    obtain ⟨late', hlag', hlate⟩ := (hhg.lag hrunning).exists_eq hlag
    obtain ⟨after', hkill', hafter⟩ := (hhg.kill child hlate).exists_eq hkill
    rw [Host.await, hpoll']
    simp only [hlag', if_pos htimeout, hkill']
    exact ⟨rfl, hafter⟩
  | case4 elapsed s running hpoll lag late hlag htimeout after hkill =>
    obtain ⟨running', hpoll', hrunning⟩ := (hhg.poll child hst).exists_eq hpoll
    obtain ⟨late', hlag', hlate⟩ := (hhg.lag hrunning).exists_eq hlag
    obtain ⟨after', hkill', hafter⟩ := (hhg.kill child hlate).exists_eq hkill
    rw [Host.await, hpoll']
    simp only [hlag', if_pos htimeout, hkill']
    exact ⟨rfl, hhg.reap child hafter⟩
  | case5 elapsed s running hpoll lag late hlag htimeout ih =>
    obtain ⟨running', hpoll', hrunning⟩ := (hhg.poll child hst).exists_eq hpoll
    obtain ⟨late', hlag', hlate⟩ := (hhg.lag hrunning).exists_eq hlag
    rw [Host.await.eq_def g, hpoll']
    simp only [hlag', if_neg htimeout]
    exact ih hlate

theorem process (hhg : h.Related R g) (c : TargetCommand) (extra : List String)
    (stdin : Option Bytes) (hst : R s t) :
    Agree R (c.process h extra stdin s) (c.process g extra stdin t) := by
  rw [TargetCommand.process, TargetCommand.process]
  obtain ⟨result, s, hspawn⟩ : ∃ result s', h.spawn c extra stdin s = (result, s') := ⟨_, _, rfl⟩
  obtain ⟨t, hspawn', hst⟩ := (hhg.spawn c extra stdin hst).exists_eq hspawn
  rw [hspawn, hspawn']
  cases result with
  | error cause => exact ⟨rfl, hst⟩
  | ok child =>
    obtain ⟨fault, s, hhand⟩ : ∃ fault s', h.hand child stdin s = (fault, s') := ⟨_, _, rfl⟩
    obtain ⟨t, hhand', hst⟩ := (hhg.hand child stdin hst).exists_eq hhand
    simp only [hhand, hhand']
    rcases fault with _ | (_ | cause)
    · exact hhg.await c.timeout child 0 hst
    · exact hhg.await c.timeout child 0 hst
    · exact ⟨rfl, hhg.reap child (hhg.kill child hst).2⟩

theorem processOnFile (hhg : h.Related R g) (c : TargetCommand) (template : String)
    (path input : Bytes) (hst : R s t) :
    Agree R (c.processOnFile h template path input s)
      (c.processOnFile g template path input t) := by
  rw [TargetCommand.processOnFile, TargetCommand.processOnFile]
  obtain ⟨fault, s, hfill⟩ : ∃ fault s', h.fill path input s = (fault, s') := ⟨_, _, rfl⟩
  obtain ⟨t, hfill', hst⟩ := (hhg.fill path input hst).exists_eq hfill
  rw [hfill, hfill']
  cases fault with
  | some cause => exact ⟨rfl, hst⟩
  | none =>
    cases Text.Utf8.decode? path with
    | none => exact ⟨rfl, hst⟩
    | some path => exact hhg.process c _ none hst

theorem course (hhg : h.Related R g) (c : TargetCommand) (input : Bytes) (hst : R s t) :
    (c.course h input s).Related R (c.course g input t) := by
  rw [TargetCommand.course, TargetCommand.course]
  by_cases hempty : c.command.isEmpty = true
  · rw [if_pos hempty, if_pos hempty]
    exact ⟨rfl, hst, rfl⟩
  rw [if_neg hempty, if_neg hempty]
  cases c.delivery with
  | stdin =>
    obtain ⟨hstatus, hstate⟩ := hhg.process c [] (some input) hst
    exact ⟨hstatus, hstate, rfl⟩
  | file template =>
    obtain ⟨result, s, hmake⟩ : ∃ result s', h.makeTemp s = (result, s') := ⟨_, _, rfl⟩
    obtain ⟨t, hmake', hst⟩ := (hhg.makeTemp hst).exists_eq hmake
    simp only [hmake, hmake']
    cases result with
    | error cause => exact ⟨rfl, hst, rfl⟩
    | ok path =>
      obtain ⟨hstatus, hstate⟩ := hhg.processOnFile c template path input hst
      exact ⟨hstatus, hstate, rfl⟩

end Host.Related

namespace Executor

/-- Executors of one kind whose operations agree on related states. -/
def Related (R : σ → τ → Prop) : Executor σ → Executor τ → Prop
  | .idle, .idle => True
  | .inProcess f, .inProcess g => ∀ input s t, R s t → Agree R (f input s) (g input t)
  | .command h c, .command g d => h.Related R g ∧ c = d
  | _, _ => False

/-- On related states related executors take related courses. -/
theorem course_related {R : σ → τ → Prop} {e : Executor σ} {f : Executor τ} (h : e.Related R f)
    {s : σ} {t : τ} (hst : R s t) {input : Bytes} {c : Course σ}
    (hcourse : e.course input s = some c) :
    ∃ d, f.course input t = some d ∧ c.Related R d := by
  cases e <;> cases f <;> try exact h.elim
  case idle.idle => cases hcourse
  case inProcess.inProcess f g =>
    obtain rfl := Option.some.inj hcourse
    obtain ⟨hstatus, hstate⟩ := h input s t hst
    exact ⟨_, rfl, hstatus, hstate, rfl⟩
  case command.command =>
    obtain rfl := Option.some.inj hcourse
    obtain ⟨hhg, rfl⟩ := h
    exact ⟨_, rfl, hhg.course _ input hst⟩

end Executor

/-! ## Courses on a part of the state -/

section Part

variable (p : Part τ σ) (t₀ : τ)

/-- The state of the whole whose part is `s` and which is `t₀` otherwise. -/
def Part.Lifts (s : σ) (t : τ) : Prop := t = p.set s t₀

variable {p t₀}

theorem Part.lifts_act {f : σ → α × σ} {s : σ} {t : τ} (h : p.Lifts t₀ s t) :
    Agree (p.Lifts t₀) (f s) (p.act f t) := by
  subst h
  simp only [Agree, Part.act, Part.Lifts, p.get_set, p.set_set, true_and]

theorem Part.lifts_map {f : σ → σ} {s : σ} {t : τ} (h : p.Lifts t₀ s t) :
    p.Lifts t₀ (f s) (p.map f t) := by
  subst h
  simp only [Part.map, Part.Lifts, p.get_set, p.set_set]

theorem Executor.related_on (e : Executor σ) : e.Related (p.Lifts t₀) (e.on p) := by
  cases e with
  | idle => trivial
  | inProcess target => exact fun _ _ _ h => Part.lifts_act h
  | command host c =>
    exact ⟨{
      makeTemp := Part.lifts_act
      fill := fun _ _ _ _ => Part.lifts_act
      spawn := fun _ _ _ _ _ => Part.lifts_act
      feed := fun _ _ _ _ => Part.lifts_act
      poll := fun _ _ _ => Part.lifts_act
      lag := Part.lifts_act
      kill := fun _ _ _ => Part.lifts_act
      reap := fun _ _ _ => Part.lifts_map
      discard := fun _ _ _ => Part.lifts_map }, rfl⟩

/-- On a part of the state an executor takes the course that it takes on that part alone. -/
theorem Executor.course_on {e : Executor σ} {input : Bytes} {t : τ} {c : Course σ}
    (h : e.course input (p.get t) = some c) :
    (e.on p).course input t = some ⟨c.status, p.set c.state t, c.temp⟩ := by
  have hlifts : p.Lifts t (p.get t) t := (p.set_get t).symm
  obtain ⟨d, hd, hstatus, hstate, htemp⟩ := course_related (e.related_on (p := p)) hlifts h
  rw [hd, hstatus, htemp, ← show d.state = p.set c.state t from hstate]

theorem Executor.clear_on (e : Executor σ) (temp : Option Bytes) (t : τ) :
    (e.on p).clear temp t = p.map (e.clear temp) t := by
  -- what is left alone in the part is left alone in the whole
  have hid : p.map (fun s => s) t = t := p.set_get t
  cases e with
  | idle => exact hid.symm
  | inProcess target => exact hid.symm
  | command host c =>
    cases temp with
    | none => exact hid.symm
    | some path => rfl

end Part

end BlockCoverage
