import CommandScript.CommandLine.Program
import CommandScript.Proofs.EchoRuns
import CommandScript.Proofs.SettingsFields
import Mathlib

/-!
# The listing and the run of one script

The program lists the commands of a script with one loop, and runs it with another, over an
executor and with settings and a log of its own. With the echo executor, and with its verbose level
the one at which comments are shown, both write the same to the standard output and end well
(`out_list_eq_out_run`). What this rests on:

* the options of the run win over all other sources of settings (`executor_verboseLevel_of_load`);
* neither the log at the start nor one with the default profile writes to the standard output, so
  that it holds the texts of the listing and nothing else (`writeTrace_out`);
* the listing and the echo run stop at the same exit command, with the same texts before it
  (`Session.exists_run_echo`).

Of the console nothing is used but that what it makes of a text depends on the text, its width and
the pictures that it knows.
-/
namespace CommandScript

/-! ### The standard output -/

/-- A configured log **leaves the standard output** alone: all that it writes is written to the
error output. -/
def Log.Configuration.LeavesOut (log : Log.Configuration) : Prop :=
  ∀ width record, ∀ written ∈ log.write width record, written.1 = .err

/-- A handler of another form than that of the console leaves the standard output alone. -/
theorem Log.Configuration.leavesOut_of_handler {log : Log.Configuration} {handler : Log.Handler}
    (h : log.handler = some handler) (hform : handler.form ≠ .console) : log.LeavesOut := by
  intro width record written hwritten
  rw [write, h, Option.bind_some, Log.Handler.write] at hwritten
  split at hwritten
  · cases hwritten
  · cases hhandler : handler.form with
    | console => exact absurd hhandler hform
    | plain | startUp =>
      rw [hhandler] at hwritten
      rw [← Option.some.inj hwritten]

/-- A log that is configured with a known level and the default profile. -/
theorem Log.Configuration.leavesOut_configure {level : Text}
    (h : Log.Level.ofName? (Text.upper level) ≠ none) :
    (empty.configure level ProfileChoice.default.name).1 = .ok () ∧
      (empty.configure level ProfileChoice.default.name).2.LeavesOut := by
  obtain ⟨threshold, hthreshold⟩ := Option.ne_none_iff_exists'.1 h
  rw [configure]
  simp only [empty, reduceCtorEq, if_false, hthreshold, true_and]
  have hform : formOf ProfileChoice.default.name ≠ .console := by decide
  exact leavesOut_of_handler rfl hform

namespace CommandLine

/-- What a trace writes to the standard output are the texts of its listing. -/
theorem writeTrace_out {log : Log.Configuration} (h : log.LeavesOut) (pictures : Console.Pictures)
    (width : ℕ) (trace : Trace) :
    writeTrace pictures width log .out trace =
      trace.listed.flatMap (Console.render pictures width) := by
  induction trace with
  | nil => rfl
  | cons event rest ih =>
    rw [writeTrace, List.flatMap_cons, ← writeTrace, ih]
    cases event with
    | applied command => rfl
    | logged record =>
      cases hwritten : log.write width record with
      | none => simp [writeEvent, hwritten]
      | some written =>
        have herr := h width record written hwritten
        simp [writeEvent, hwritten, herr]
    | printed sink text => cases sink <;> simp [writeEvent, Trace.listed]

/-! ### The listing -/

/-- A listing prints every command before the exit command. -/
theorem listed_listingTrace (readings : List Reading) :
    (listingTrace readings).listed =
      (readings.map Reading.command).filter (· ≠ exitCommand) := by
  induction readings with
  | nil => rfl
  | cons reading readings ih =>
    rw [listingTrace, List.flatMap_cons, ← listingTrace, Trace.listed_append, ih, List.map_cons,
      List.filter_cons, Trace.listed_append, Trace.listed_map_logged]
    by_cases hexit : reading.command = exitCommand
    · simp [hexit]
    · simp [hexit]

variable {η : Type} {around : Surroundings η} {script : Text} {file : ℕ} {octets : List UInt8}

/-- The listing of a script that opens. -/
theorem list_of_openFile
    (hopen : around.files.openFile (Path.ofText script) = .ok (file, octets)) :
    (list around script).ending = .exit 0 ∧
      (list around script).out =
        (Script.reader octets).listing.flatMap
          (Console.render around.pictures around.width) := by
  have hlog : Log.Configuration.atStart.LeavesOut :=
    Log.Configuration.leavesOut_of_handler rfl (by decide)
  rw [list, hopen]
  refine ⟨rfl, ?_⟩
  refine (writeTrace_out hlog around.pictures around.width _).trans ?_
  rw [listed_listingTrace]
  rfl

/-! ### The settings of a run -/

/-- Settings that are loaded are made from the overrides and from two other sources. -/
theorem exists_ofSources_of_load {files : FileStore} {environment : List (Text × Text)}
    {overrides : Settings.Source} {settings : Settings}
    (h : (Settings.load files environment overrides).result = .ok settings) :
    ∃ environment file, Settings.ofSources ⟨overrides, environment, file⟩ = .ok settings := by
  rw [Settings.load] at h
  split at h
  · cases h
  · next read _ =>
    let named := Settings.sourceOfTexts (environment.map fun entry ↦ (entry.1, some entry.2))
    let bound := Settings.sourceOfTexts read.bindings
    have hmade : (Settings.ofSources ⟨overrides, named, bound⟩).mapError
        Settings.LoadError.invalid = .ok settings := h
    refine ⟨named, bound, ?_⟩
    generalize Settings.ofSources _ = made at hmade ⊢
    cases made with
    | error faults => cases hmade
    | ok made => rw [Except.ok.inj hmade]

/-- A run that is told the echo executor and a verbose level has them in its settings. -/
theorem executor_verboseLevel_of_load {files : FileStore} {environment : List (Text × Text)}
    {options : RunOptions} {settings : Settings} {verboseLevel : Int}
    (hload : (Settings.load files environment (overridesOf options)).result = .ok settings)
    (hexecutor : options.executor = some .echo)
    (hverbose : options.verboseLevel = some verboseLevel) :
    settings.executor = .echo ∧ settings.verboseLevel = verboseLevel := by
  obtain ⟨environment, file, hmade⟩ := exists_ofSources_of_load hload
  have hoverrides : overridesOf options =
      [(Settings.Field.executor.name, some (.text ExecutorChoice.echo.name)),
        (Settings.Field.verboseLevel.name, some (.integer verboseLevel))] := by
    rw [overridesOf, hexecutor, hverbose]
    rfl
  rw [hoverrides] at hmade
  have hverdict := Settings.ofSources_eq_ok_iff.1 hmade
  have hchoice := hverdict .executor
  have hlevel := hverdict .verboseLevel
  rw [Settings.Sources.verdict_of_override rfl] at hchoice hlevel
  exact ⟨(Except.ok.inj hchoice).symm, (Except.ok.inj hlevel).symm⟩

/-! ### The echo run -/

/-- The echo run of a script that opens, over a log that leaves the standard output alone. -/
theorem runWith_echo {files : FileStore} {options : RunOptions} {log : Log.Configuration}
    (hopen : files.openFile (Path.ofText options.script) = .ok (file, octets))
    (hlog : log.LeavesOut) (pictures : Console.Pictures) (width : ℕ)
    (echoLevel verboseLevel : Int) :
    let listing := (Script.reader octets).listing
    let shown := if verboseLevel = echoLevel then listing
      else listing.filter fun c ↦ !Session.isComment c
    let ran := runWith .echo ⟨verboseLevel, []⟩ files pictures width log echoLevel options
    ran.ending = .exit 0 ∧ ran.out = shown.flatMap (Console.render pictures width) := by
  let s : Session Unit :=
    ⟨Path.ofText options.script, (), echoLevel, .opened (.atStart file octets)⟩
  let nesting : Nesting Unit EchoState := Session.nesting .echo files 0
  obtain ⟨n, -, hvalue, -, hlisted⟩ :=
    Session.exists_run_echo (s := s) nesting ⟨verboseLevel, []⟩ rfl
  rw [← Session.value_runOrPause .echo nesting options.pause] at hvalue
  rw [← Session.listed_trace_runOrPause .echo nesting options.pause] at hlisted
  rw [runWith, Session.openScript, hopen]
  simp only [s, nesting] at hvalue hlisted
  simp only [hvalue]
  refine ⟨rfl, ?_⟩
  refine (writeTrace_out hlog pictures width _).trans ?_
  rw [List.map_nil, List.nil_append, hlisted]
  rfl

/-- A run over the echo executor whose settings are valid and whose log has the default profile. -/
theorem run_echo {options : RunOptions} {settings : Settings} {verboseLevel : Int}
    (hopen : around.files.openFile (Path.ofText options.script) = .ok (file, octets))
    (hexecutor : options.executor = some .echo)
    (hverbose : options.verboseLevel = some verboseLevel)
    (hload : (Settings.load around.files around.environment (overridesOf options)).result =
      .ok settings)
    (hlevel : Log.Level.ofName? (Text.upper settings.logLevel) ≠ none)
    (hprofile : settings.logProfile = .default) :
    let listing := (Script.reader octets).listing
    let shown := if verboseLevel = settings.echoLevel then listing
      else listing.filter fun c ↦ !Session.isComment c
    (run around options).ending = .exit 0 ∧
      (run around options).out = shown.flatMap (Console.render around.pictures around.width) := by
  obtain ⟨hchoice, rfl⟩ := executor_verboseLevel_of_load hload hexecutor hverbose
  obtain ⟨hconfigured, hleaves⟩ := Log.Configuration.leavesOut_configure hlevel
  rw [run, hload]
  simp only [runLoaded, hprofile, hconfigured, runSettings, hchoice, Result.warned]
  exact runWith_echo hopen hleaves around.pictures around.width settings.echoLevel
    settings.verboseLevel

/-! ### The agreement -/

/-- **A listing and an echo run of one script agree.** For every script that opens, with valid
settings and the default profile of the log, and when the verbose level given to the run is the
echo level, both end with the status 0 and write the same to the standard output: what the console
makes of each command of the listing. Over any two levels the echo executor remembers the listing
without the comments, and the run counts just these, without a warning and without an error. Both
have read what stands before the first exit command and that command, and nothing behind it. -/
theorem out_list_eq_out_run {listArguments runArguments : List Text} {options : RunOptions}
    {settings : Settings} (hlist : parse listArguments = .ok (.commands script))
    (hrun : parse runArguments = .ok (.run options)) (hscript : options.script = script)
    (hexecutor : options.executor = some .echo)
    (hverbose : options.verboseLevel = some settings.echoLevel)
    (hload : (Settings.load around.files around.environment (overridesOf options)).result =
      .ok settings)
    (hlevel : Log.Level.ofName? (Text.upper settings.logLevel) ≠ none)
    (hprofile : settings.logProfile = .default)
    (hopen : around.files.openFile (Path.ofText script) = .ok (file, octets)) :
    let opened := Script.Opened.atStart file octets
    let r := opened.reader
    ((invoke around listArguments).ending = .exit 0 ∧
        (invoke around runArguments).ending = .exit 0 ∧
        (invoke around listArguments).out =
          r.listing.flatMap (Console.render around.pictures around.width) ∧
        (invoke around runArguments).out = (invoke around listArguments).out) ∧
      ∃ n, r.ExitsFirst n ∧ r.readings = r.firstReadings (n + 1) ∧
        ∀ (echoLevel verboseLevel : Int) (strict : Bool) (depth : ℕ), ∃ s : Session Unit,
          Session.openScript around.files (Path.ofText script) () echoLevel strict =
              .ok (s, []) ∧
            let ran := s.run .echo (Session.nesting .echo around.files depth) ⟨verboseLevel, []⟩
            ran.state = ⟨verboseLevel, r.listing.filter fun c ↦ !Session.isComment c⟩ ∧
              ran.value = (.ok ⟨(), ran.state.history.length, 0, none⟩,
                { s with stream := .opened (opened.withReader (r.after (n + 1))) }) := by
  intro opened r
  obtain ⟨hlistExit, hlistOut⟩ := list_of_openFile hopen
  subst hscript
  obtain ⟨hrunExit, hrunOut⟩ := run_echo hopen hexecutor hverbose hload hlevel hprofile
  rw [if_pos rfl] at hrunOut
  simp only [invoke, hlist, hrun]
  refine ⟨⟨hlistExit, hrunExit, hlistOut, hrunOut.trans hlistOut.symm⟩, ?_⟩
  -- where the script exits first is settled by its lines, so that one place serves all runs
  obtain ⟨n, hexits⟩ := r.exists_exitsFirst
  refine ⟨n, hexits, hexits.readings_eq, fun echoLevel verboseLevel strict depth ↦ ?_⟩
  let s : Session Unit := ⟨Path.ofText options.script, (), echoLevel, .opened opened⟩
  refine ⟨s, by rw [Session.openScript, hopen], ?_⟩
  obtain ⟨m, hm, hvalue, hleft, -⟩ := Session.exists_run_echo (s := s)
    (Session.nesting .echo around.files depth) ⟨verboseLevel, []⟩ rfl
  obtain rfl : m = n := hm.eq hexits
  rw [List.nil_append] at hleft
  exact ⟨hleft, by rw [hvalue, hleft]⟩

/-- A script with a comment, a command, an exit line and a command behind it, which is listed and
run with the verbose level 1 on a console of 40 columns. -/
theorem out_list_eq_out_run_behind_exit :
    let octets := "# release\nship it\nexit\ntidy\n".toUTF8.toList
    let files : FileStore := ⟨[([], 0), (["release".toList], 1)],
      [(1, ⟨.file octets, FileStore.fileMode, 0⟩), (0, ⟨.directory, FileStore.directoryMode, 0⟩)],
      1, []⟩
    let around : Surroundings Unit := ⟨files,
      [("MACROLOOP_ECHO_VERBOSE_LEVEL".toList, "1".toList)], 40, .ofTable [] (by simp),
      fun _ ↦ [], ⟨fun host _ _ ↦ (host, .notStarted []), fun _ _ ↦ none⟩, ()⟩
    let listArguments := ["commands".toList, "release".toList]
    let runArguments := ["run".toList, "release".toList, "--executor".toList, "echo".toList,
      "--verbose".toList, "1".toList]
    (invoke around listArguments).ending = .exit 0 ∧
      (invoke around runArguments).ending = .exit 0 ∧
      (invoke around listArguments).out = "# release\nship it\n".toList ∧
      (invoke around runArguments).out = (invoke around listArguments).out := by
  intro octets files around listArguments runArguments
  let options : RunOptions := ⟨"release".toList, some .echo, some 1, none, false⟩
  let settings : Settings := ⟨"INFO".toList, .default, 1, .echo, 1, none⟩
  have hlist : parse listArguments = .ok (.commands "release".toList) := by decide +kernel
  have hrun : parse runArguments = .ok (.run options) := by decide +kernel
  have hfile : Settings.readEnvironmentFile around.files = .ok ⟨[], []⟩ := by
    simp only [around, files]
    cbv
  have hload : (Settings.load around.files around.environment (overridesOf options)).result =
      .ok settings := by
    rw [Settings.load, hfile]
    decide +kernel
  have hopen : around.files.openFile (Path.ofText "release".toList) = .ok (1, octets) := by
    simp only [around, files]
    cbv
  obtain ⟨⟨hlistExit, hrunExit, hlistOut, hsame⟩, -⟩ :=
    out_list_eq_out_run hlist hrun rfl rfl rfl hload (by decide) rfl hopen
  refine ⟨hlistExit, hrunExit, hlistOut.trans ?_, hsame⟩
  simp only [around, octets]
  cbv

end CommandLine

end CommandScript
