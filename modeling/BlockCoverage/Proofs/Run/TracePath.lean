import BlockCoverage.Program
import BlockCoverage.Proofs.Files.Start

/-!
# The trace file of a target and of its observer

The trace file is named once, in the configuration, and the name goes two ways: to the target, in
its environment, and to the observer of the session. The target looks for it from the directory that
it is started in, the observer from the directory of the program.

So both mean the same file when the name is absolute, when the target is started where the program
is, and whenever both directories are the same location. A relative name and another working
directory part them: a trace file that is a single name is then a file in each of the two
directories (`traceFile_of_setup`).
-/

namespace BlockCoverage

theorem exists_of_bind_eq_ok {ε α β : Type} {x : Except ε α} {f : α → Except ε β} {b : β}
    (h : x >>= f = .ok b) : ∃ a, x = .ok a ∧ f a = .ok b := by
  cases x with
  | error cause => cases h
  | ok a => exact ⟨a, rfl, h⟩

theorem exists_ok_of_toBool {ε α : Type} {x : Except ε α} (h : x.toBool = true) :
    ∃ a, x = .ok a := by
  cases x with
  | error cause => cases h
  | ok a => exact ⟨a, rfl⟩

namespace TargetCommand

/-! ## The environment -/

/-- The text of a setting, cut at its first equals sign. -/
theorem cut_setting {name : String} (hname : '=' ∉ name.toList) (value : String) :
    let cs := (name ++ "=" ++ value).toList
    let found := cs.takeWhile (fun x => x != '=')
    (String.ofList found, String.ofList (cs.drop (found.length + 1))) = (name, value) := by
  have hlist : (name ++ "=" ++ value).toList = name.toList ++ ['='] ++ value.toList := by
    rw [String.toList_append, String.toList_append]
    rfl
  have hfound : (name.toList ++ ['='] ++ value.toList).takeWhile (fun x => x != '=') =
      name.toList := by
    rw [List.append_assoc, List.takeWhile_append_of_pos fun c hc =>
      bne_iff_ne.mpr (ne_of_mem_of_not_mem hc hname)]
    simp
  have hrest : (name.toList ++ ['='] ++ value.toList).drop (name.toList.length + 1) =
      value.toList := List.drop_left' (by simp)
  simp only [hlist, hfound, hrest, String.ofList_toList]

theorem entries_settings (value : String) :
    (OrderedMap.ofList (givenEnvironment ++ [(traceVariable, value)])).entries =
      (traceVariable, value) :: givenEnvironment := by
  have hhome : compare traceVariable "HOME" = .lt := by decide +kernel
  have hpath : compare "PATH" "HOME" = .gt := by decide +kernel
  simp [OrderedMap.ofList, OrderedMap.insert, OrderedMap.empty, givenEnvironment, OrderedMap.place,
    hhome, hpath]

/-- A target that is told nothing but its trace file finds that, beside what every target finds. -/
theorem fullEnvironment_eq {c : TargetCommand} {value : String}
    (h : c.environment = [(traceVariable, value)]) :
    c.fullEnvironment = (traceVariable, value) :: givenEnvironment := by
  have htrace : '=' ∉ traceVariable.toList := by decide +kernel
  have hgiven : ∀ e ∈ givenEnvironment, '=' ∉ e.1.toList := by decide +kernel
  have hnames : ∀ e ∈ (traceVariable, value) :: givenEnvironment, '=' ∉ e.1.toList :=
    List.forall_mem_cons.mpr ⟨htrace, hgiven⟩
  rw [fullEnvironment, h, entries_settings]
  have hcut := List.map_congr_left fun e he => cut_setting (hnames e he) e.2
  simp only [hcut, List.map_id_fun', id_eq]
  simp [givenEnvironment, traceVariable]

/-! ## The start directory -/

/-- A target is started in the tree as it is, in a directory of its own or that of the program. -/
theorem startDirectory_eq_ok {c : TargetCommand} {now seen : Files}
    (h : c.startDirectory now = .ok seen) :
    seen = now.seenFrom seen.here ∧ (c.workingDir = none → seen.here = now.here) := by
  rw [startDirectory] at h
  split at h
  · obtain rfl := Except.ok.inj h
    exact ⟨rfl, fun _ => rfl⟩
  · rename_i dir hdir
    split at h
    · cases h
    · split at h
      · cases h
      · cases h
      · obtain rfl := Except.ok.inj h
        refine ⟨?_, fun hnone => by rw [hnone] at hdir; cases hdir⟩
        rw [Files.enter]
        split <;> rfl

/-- A working directory that leads to a directory is one to start in. -/
theorem startDirectory_of_directory {c : TargetCommand} {now : Files} {dir : String}
    {loc : Location}
    {n : Nat} (hdir : c.workingDir = some dir) (hlocate : now.locate dir = .ok loc)
    (hentry : now.entryAt? loc = some (.directory n)) :
    c.startDirectory now = .ok (now.seenFrom n) := by
  simp [startDirectory, hdir, hlocate, Files.node?, hentry, Files.enter, Files.seenFrom]

end TargetCommand

namespace Program

open CommandLine (Options)

/-- A session is set up with the trace file of the configuration, and with its command if it has
one. -/
theorem setup_eq_ok {launch : Launcher} {o : Options} {c : Config} {fs : Files} {p : Setup}
    (h : setup launch o c fs = .ok p) :
    p.session.traceFile = c.traceFile ∧
      ∀ t, c.targetCommand = some t → p.session.executor = .command launch.host t := by
  obtain ⟨model, -, h⟩ := exists_of_bind_eq_ok h
  obtain ⟨target, -, h⟩ := exists_of_bind_eq_ok h
  obtain ⟨corpus, -, h⟩ := exists_of_bind_eq_ok h
  cases hcommand : c.targetCommand with
  | none =>
    simp only [hcommand] at h
    split at h
    · obtain rfl := Except.ok.inj h
      exact ⟨rfl, fun t ht => by cases ht⟩
    · cases h
  | some command =>
    simp only [hcommand] at h
    obtain rfl := Except.ok.inj h
    exact ⟨rfl, fun t ht => by rw [Option.some.inj ht]⟩

theorem environment_of_targetCommand {c : Config} {t : TargetCommand}
    (h : c.targetCommand = some t) :
    t.environment = [(TargetCommand.traceVariable, c.traceFile)] := by
  obtain ⟨settings, -, rfl⟩ := Option.map_eq_some_iff.mp h
  rfl

/-- The target is told the trace file of the session. It is started in the tree of the program, in a
directory of its own or that of the program. At any moment of a run the two mean the same file if
the name is absolute, if no working directory is set, or if both directories are at the same
location; and a single name means the same file in the last case only. -/
theorem traceFile_of_setup {launch : Launcher} {o : Options} {c : Config} {fs : Files} {p : Setup}
    {t : TargetCommand} (hsetup : setup launch o c fs = .ok p) (ht : c.targetCommand = some t) :
    t.fullEnvironment.lookup TargetCommand.traceVariable = some p.session.traceFile ∧
    p.session.executor = .command launch.host t ∧
    ∀ now seen, t.startDirectory now = .ok seen → seen = now.seenFrom seen.here ∧ ∀ tree : Files,
      (Path.isAbsolute p.session.traceFile = true ∨ t.workingDir = none ∨
          tree.locationOf? seen.here = tree.locationOf? now.here →
        tree.SameFile seen.here now.here p.session.traceFile) ∧
      (Path.IsName p.session.traceFile → ∀ there here, tree.locationOf? seen.here = some there →
        tree.locationOf? now.here = some here →
        (tree.SameFile seen.here now.here p.session.traceFile ↔ there = here)) := by
  obtain ⟨htrace, hexecutor⟩ := setup_eq_ok hsetup
  refine ⟨?_, hexecutor t ht, ?_⟩
  · rw [TargetCommand.fullEnvironment_eq (environment_of_targetCommand ht), htrace]
    exact List.lookup_cons_self
  intro now seen hstart
  obtain ⟨hseen, hhere⟩ := TargetCommand.startDirectory_eq_ok hstart
  refine ⟨hseen, fun tree => ⟨?_, fun hname there here => Files.sameFile_iff_of_isName hname⟩⟩
  rintro (habsolute | hnone | hsame)
  · exact Files.sameFile_of_start (.inl habsolute)
  · exact Files.sameFile_of_start (.inr (by rw [hhere hnone]))
  · exact Files.sameFile_of_start (.inr hsame)

/-- The working directory `w` parts the two on the trace file `cov`: the target means a file in `w`,
and the observer one beside `w`. On the trace file `/tmp/cov` it does not. -/
theorem traceFile_of_setup_elsewhere :
    let launch : Launcher := fun _ fs => .ok (.exited 0, fs)
    let o : Options := {}
    let fs := (Files.fresh.put ["work", "w"] .directory).put ["work", "m"]
      (.file (Text.Utf8.encode "\x7b\x7d"))
    let settings : TargetSettings := ⟨["true"], .stdin, 5, some "w"⟩
    let relative : Config :=
      { Config.standard with staticMap := some "m", traceFile := "cov", target := some settings }
    let absolute : Config := { relative with traceFile := "/tmp/cov" }
    (∃ p t seen, setup launch o relative fs = .ok p ∧ relative.targetCommand = some t ∧
      t.startDirectory fs = .ok seen ∧
      t.fullEnvironment.lookup TargetCommand.traceVariable = some "cov" ∧
      p.session.traceFile = "cov" ∧ ¬fs.SameFile seen.here fs.here "cov") ∧
    ∃ p t seen, setup launch o absolute fs = .ok p ∧ absolute.targetCommand = some t ∧
      t.startDirectory fs = .ok seen ∧ p.session.traceFile = "/tmp/cov" ∧
      fs.SameFile seen.here fs.here "/tmp/cov" := by
  intro launch o fs settings relative absolute
  have hentry : fs.entryAt? ["work", "w"] = some (.directory (fs.inodes.size - 2)) := by
    decide +kernel
  have hlocate : fs.locate "w" = .ok ["work", "w"] := rfl
  have hstart : ∀ t : TargetCommand, t.workingDir = some "w" → t.startDirectory fs = .ok _ :=
    fun t ht => TargetCommand.startDirectory_of_directory ht hlocate hentry
  constructor
  · obtain ⟨p, hp⟩ : ∃ p, setup launch o relative fs = .ok p :=
      exists_ok_of_toBool (by decide +kernel)
    have htrace : p.session.traceFile = "cov" := (setup_eq_ok hp).1
    have hname : Path.IsName p.session.traceFile := by
      rw [htrace]
      exact ⟨by decide +kernel, by decide, by decide, by decide, by decide +kernel, by decide⟩
    obtain ⟨henvironment, -, hfiles⟩ := traceFile_of_setup hp rfl
    have hapart := ((hfiles fs _ (hstart _ rfl)).2 fs).2 hname ["work", "w"] ["work"]
      (by decide +kernel) (by decide +kernel)
    rw [htrace] at henvironment hapart
    refine ⟨p, _, _, hp, rfl, hstart _ rfl, henvironment, htrace, fun hsame => ?_⟩
    exact absurd (hapart.mp hsame) (by decide)
  · obtain ⟨p, hp⟩ : ∃ p, setup launch o absolute fs = .ok p :=
      exists_ok_of_toBool (by decide +kernel)
    have htrace : p.session.traceFile = "/tmp/cov" := (setup_eq_ok hp).1
    obtain ⟨-, -, hfiles⟩ := traceFile_of_setup hp rfl
    have hsame := ((hfiles fs _ (hstart _ rfl)).2 fs).1
    rw [htrace] at hsame
    exact ⟨p, _, _, hp, rfl, hstart _ rfl, htrace, hsame (.inl (by decide +kernel))⟩

end Program

end BlockCoverage
