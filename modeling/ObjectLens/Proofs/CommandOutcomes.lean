import ObjectLens.Proofs.DisplayedNames
import ObjectLens.Proofs.PrintedReports

/-! How runs of the program end. The arguments are looked at first, then the options in a file, then the binary, and
then the question; the first of them that fails decides, and only a run that answers prints anything. -/

namespace ObjectLens.CommandLine

namespace Outcome

def success (output : String) : Outcome := ⟨0, output, ""⟩

def failure (cause : Failure) : Outcome := ⟨1, "", cause.message ++ "\n"⟩

def misuse : Outcome := ⟨2, "", usage⟩

def aborted : Outcome := ⟨101, "", programName ++ " broke off while reading the binary\n"⟩

variable {part : Printing Unit} {text : String} {cause : Failure}

private theorem ofRun_of_prints (prints : Prints part text) : ofRun (part.run "") = success text := by
  rw [prints, String.empty_append]
  rfl

private theorem ofRun_of_failed (stops : Stops part (.failed cause)) : ofRun (part.run "") = failure cause := by
  rw [stops]
  rfl

private theorem ofRun_of_aborted (stops : Stops part .aborted) : ofRun (part.run "") = aborted := by
  rw [stops]
  rfl

end Outcome

/-- A run of the program on arguments that ask a question. -/
def Invocation.run (invocation : Invocation) (files : String → FileState) : Outcome :=
  .ofRun ((invocation.answer files).run "")

/-- The ways in which a question ends: each layer is reached through those before it. -/
inductive Invocation.Ends (invocation : Invocation) (files : String → FileState) : Outcome → Prop
  | noOptions {error : ConfigError} (unread : invocation.options files = .error error) :
      invocation.Ends files (.failure (.config error))
  | broken {config : Config} (chosen : invocation.options files = .ok config)
      (breaks : Image.load none config (files invocation.binary) = .error .aborted) : invocation.Ends files .aborted
  | refused {config : Config} {cause : LoadError} (chosen : invocation.options files = .ok config)
      (unopened : Image.load none config (files invocation.binary) = .error (.refused cause)) :
      invocation.Ends files (.failure (.load invocation.binary cause))
  | unanswered {config : Config} {image : Image} {error : QueryError}
      (chosen : invocation.options files = .ok config)
      (opened : Image.load none config (files invocation.binary) = .ok image)
      (unknown : Report.ofCommand invocation.binary image invocation.command = .error error) :
      invocation.Ends files (.failure (.query error))
  | answered {config : Config} {image : Image} {report : Report}
      (chosen : invocation.options files = .ok config)
      (opened : Image.load none config (files invocation.binary) = .ok image)
      (known : Report.ofCommand invocation.binary image invocation.command = .ok report) :
      invocation.Ends files (.success (report.render invocation.json))

namespace Invocation

variable {invocation : Invocation} {files : String → FileState} {outcome : Outcome}

section

variable {config : Config} {image : Image} {reason : Break}

private theorem gives_chosen (chosen : invocation.options files = .ok config) :
    Gives (invocation.chosen files) config "" := by
  rw [Invocation.chosen, chosen]
  exact gives_pure config

private theorem stops_answer_of_unread {error : ConfigError} (unread : invocation.options files = .error error) :
    Stops (invocation.answer files) (.failed (.config error)) := by
  have stops : Stops (invocation.chosen files) (.failed (.config error)) := by
    rw [Invocation.chosen, unread]
    exact stops_throw _
  exact stops.bind

/-- Every command opens the binary before it does anything else. -/
private theorem stops_answer_of_unopened (chosen : invocation.options files = .ok config)
    (unopened : Stops (openBinary files invocation.binary config) reason) :
    Stops (invocation.answer files) reason := by
  refine (gives_chosen chosen).bind_stops ?_
  cases invocation.command with
  | info | function | name | plt | symbols | stubs => exact unopened.bind

/-- Only a function may be unknown. -/
private theorem stops_answer_of_unknown {error : QueryError} (chosen : invocation.options files = .ok config)
    (opened : Image.load none config (files invocation.binary) = .ok image)
    (unknown : Report.ofCommand invocation.binary image invocation.command = .error error) :
    Stops (invocation.answer files) (.failed (.query error)) := by
  refine (gives_chosen chosen).bind_stops ?_
  cases asked : invocation.command with
  | function wanted =>
    rw [asked] at unknown
    refine stops_functionCommand opened ?_
    cases known : image.resolve wanted with
    | error cause =>
      rw [Report.ofCommand, known] at unknown
      cases unknown
      rfl
    | ok found =>
      rw [Report.ofCommand, known] at unknown
      cases unknown
  | info | name | plt | symbols | stubs =>
    rw [asked] at unknown
    cases unknown

private theorem prints_answer {report : Report} (chosen : invocation.options files = .ok config)
    (opened : Image.load none config (files invocation.binary) = .ok image)
    (known : Report.ofCommand invocation.binary image invocation.command = .ok report) :
    Prints (invocation.answer files) (report.render invocation.json) := by
  refine (gives_chosen chosen).silent_bind ?_
  cases asked : invocation.command with
  | function wanted =>
    rw [asked, Report.ofCommand] at known
    cases resolves : image.resolve wanted with
    | error cause =>
      rw [resolves] at known
      cases known
    | ok found =>
      rw [resolves] at known
      cases known
      exact prints_functionCommand opened resolves
  | info =>
    rw [asked] at known
    cases known
    exact prints_infoCommand opened
  | name address =>
    rw [asked] at known
    cases known
    exact prints_nameCommand opened
  | plt address =>
    rw [asked] at known
    cases known
    exact prints_pltCommand opened
  | symbols =>
    rw [asked] at known
    cases known
    exact prints_symbolsCommand opened
  | stubs =>
    rw [asked] at known
    cases known
    exact prints_stubsCommand opened

theorem run_of_report {report : Report} (chosen : invocation.options files = .ok config)
    (opened : Image.load none config (files invocation.binary) = .ok image)
    (known : Report.ofCommand invocation.binary image invocation.command = .ok report) :
    invocation.run files = .success (report.render invocation.json) :=
  Outcome.ofRun_of_prints (prints_answer chosen opened known)

theorem run_of_unknown {error : QueryError} (chosen : invocation.options files = .ok config)
    (opened : Image.load none config (files invocation.binary) = .ok image)
    (unknown : Report.ofCommand invocation.binary image invocation.command = .error error) :
    invocation.run files = .failure (.query error) :=
  Outcome.ofRun_of_failed (stops_answer_of_unknown chosen opened unknown)

private theorem run_of_unread {error : ConfigError} (unread : invocation.options files = .error error) :
    invocation.run files = .failure (.config error) :=
  Outcome.ofRun_of_failed (stops_answer_of_unread unread)

end

theorem ends_run (invocation : Invocation) (files : String → FileState) :
    invocation.Ends files (invocation.run files) := by
  cases chosen : invocation.options files with
  | error error =>
    rw [run_of_unread chosen]
    exact .noOptions chosen
  | ok config =>
    cases opened : Image.load none config (files invocation.binary) with
    | error error =>
      cases error with
      | aborted =>
        have stops := stops_answer_of_unopened chosen (stops_openBinary_aborted opened)
        rw [run, Outcome.ofRun_of_aborted stops]
        exact .broken chosen opened
      | refused cause =>
        have stops := stops_answer_of_unopened chosen (stops_openBinary_refused opened)
        rw [run, Outcome.ofRun_of_failed stops]
        exact .refused chosen opened
    | ok image =>
      cases known : Report.ofCommand invocation.binary image invocation.command with
      | error error =>
        rw [run_of_unknown chosen opened known]
        exact .unanswered chosen opened known
      | ok report =>
        rw [run_of_report chosen opened known]
        exact .answered chosen opened known

/-- No question about a binary is a misuse of the program, and one that is not answered has no output. -/
private theorem Ends.exitCode (ends : invocation.Ends files outcome) :
    outcome.exitCode ≠ 2 ∧ (outcome.exitCode ≠ 0 → outcome.output = "") := by
  cases ends with
  | noOptions | broken | refused | unanswered => exact ⟨Nat.ne_of_beq_eq_false rfl, fun _ => rfl⟩
  | answered => exact ⟨Nat.ne_of_beq_eq_false rfl, fun failed => absurd rfl failed⟩

theorem run_of_badConfig {path : String} {error : ConfigError} (named : invocation.config = some path)
    (unread : Config.ofFile path (files path) = .error error) :
    invocation.run files = .failure (.config error) := by
  apply run_of_unread
  simp only [options, named, Option.map_some, Config.build, unread]
  rfl

end Invocation

variable {files : String → FileState} {arguments : List String}

theorem run_of_parse {invocation : Invocation} (parsed : Invocation.parse arguments = .ok invocation)
    (files : String → FileState) : run files arguments = invocation.run files := by
  simp only [run, program, parsed]
  rfl

theorem run_of_misuse (misused : Invocation.parse arguments = .error .misuse) (files : String → FileState) :
    run files arguments = .misuse := by
  simp only [run, program, misused]
  rfl

theorem run_of_help (helped : Invocation.parse arguments = .error .help) (files : String → FileState) :
    run files arguments = .success usage := by
  simp only [run, program, helped]
  rfl

theorem run_of_version (told : Invocation.parse arguments = .error .version) (files : String → FileState) :
    run files arguments = .success (programName ++ " " ++ version ++ "\n") := by
  simp only [run, program, told]
  rfl

theorem output_of_failed (failed : (run files arguments).exitCode ≠ 0) : (run files arguments).output = "" := by
  cases parsed : Invocation.parse arguments with
  | ok invocation =>
    rw [run_of_parse parsed] at failed ⊢
    exact (invocation.ends_run files).exitCode.2 failed
  | error stop =>
    cases stop with
    | misuse => rw [run_of_misuse parsed, Outcome.misuse]
    | help => exact absurd (congrArg Outcome.exitCode (run_of_help parsed files)) failed
    | version => exact absurd (congrArg Outcome.exitCode (run_of_version parsed files)) failed

theorem exitCode_eq_two_iff : (run files arguments).exitCode = 2 ↔ Invocation.parse arguments = .error .misuse := by
  constructor
  · intro two
    cases parsed : Invocation.parse arguments with
    | ok invocation =>
      rw [run_of_parse parsed] at two
      exact absurd two (invocation.ends_run files).exitCode.1
    | error stop =>
      cases stop with
      | misuse => rfl
      | help =>
        rw [run_of_help parsed] at two
        cases two
      | version =>
        rw [run_of_version parsed] at two
        cases two
  · intro misused
    rw [run_of_misuse misused]
    rfl

/-- A run that fails prints nothing. Misuse of the program is told by the arguments alone. A file with options that
cannot be read fails every run that names it in the same way, whatever the other arguments and the other files are.
And looking up an address never fails once the binary is opened. -/
theorem run_outcomes (files : String → FileState) (arguments : List String) :
    ((run files arguments).exitCode ≠ 0 → (run files arguments).output = "") ∧
    ((run files arguments).exitCode = 2 → ∀ others, run others arguments = .misuse) ∧
    ((run files arguments).exitCode = 2 ↔ Invocation.parse arguments = .error .misuse) ∧
    (∀ invocation path error, Invocation.parse arguments = .ok invocation → invocation.config = some path →
      Config.ofFile path (files path) = .error error →
      run files arguments = .failure (.config error) ∧ (run files arguments).exitCode = 1 ∧
      ∀ others more another, Invocation.parse more = .ok another → another.config = some path →
        others path = files path → run others more = run files arguments) ∧
    ∀ invocation config image address, Invocation.parse arguments = .ok invocation →
      invocation.options files = .ok config → Image.load none config (files invocation.binary) = .ok image →
      (invocation.command = .name address → run files arguments =
        .success ((Report.name address (image.nameAt? address)).render invocation.json)) ∧
      (invocation.command = .plt address → run files arguments =
        .success ((Report.name address (image.stubNameAt? address)).render invocation.json)) := by
  refine ⟨output_of_failed, fun two => run_of_misuse (exitCode_eq_two_iff.mp two), exitCode_eq_two_iff, ?_, ?_⟩
  · intro invocation path error parsed named unread
    have fails : run files arguments = .failure (.config error) :=
      (run_of_parse parsed files).trans (Invocation.run_of_badConfig named unread)
    refine ⟨fails, congrArg Outcome.exitCode fails, fun others more another reparsed renamed same => ?_⟩
    rw [fails, run_of_parse reparsed]
    exact Invocation.run_of_badConfig renamed (same ▸ unread)
  · intro invocation config image address parsed chosen opened
    rw [run_of_parse parsed]
    constructor
    all_goals
      intro asks
      refine Invocation.run_of_report chosen opened ?_
      rw [asks]
      rfl

/-- One binary, and nothing else. -/
def boundFile (path : String) : FileState := if path = "bound" then .regular (BoundSlot.bytes true) else .missing

theorem outcomes_of_boundFile :
    (∀ others, run others [] = .misuse) ∧
    run boundFile ["--config=options", "plt", "bound", "0", "--json"] = .failure (.config (.missing "options")) ∧
    (run boundFile ["--config=options", "plt", "bound", "0", "--json"]).output = "" ∧
    (∀ others : String → FileState, others "options" = .missing →
      run others ["--att", "name", "other", "7", "--config=options"] = .failure (.config (.missing "options"))) ∧
    run boundFile ["name", "bound", "1"] = .success "0x1: (none)\n" := by
  have nothing : Invocation.parse [] = .error .misuse := rfl
  have plt : Invocation.parse ["--config=options", "plt", "bound", "0", "--json"] =
      .ok ⟨.plt 0, "bound", true, some "options", none, false⟩ := rfl
  have name : Invocation.parse ["--att", "name", "other", "7", "--config=options"] =
      .ok ⟨.name 7, "other", false, some "options", none, true⟩ := rfl
  have found : Invocation.parse ["name", "bound", "1"] = .ok ⟨.name 1, "bound", false, none, none, false⟩ := rfl
  obtain ⟨_, misuse, told, _⟩ := run_outcomes boundFile []
  obtain ⟨silent, _, _, unread, _⟩ :=
    run_outcomes boundFile ["--config=options", "plt", "bound", "0", "--json"]
  obtain ⟨fails, one, same⟩ := unread _ "options" (.missing "options") plt rfl rfl
  obtain ⟨_, _, _, _, looksUp⟩ := run_outcomes boundFile ["name", "bound", "1"]
  refine ⟨misuse (told.mpr nothing), fails, silent (one ▸ Nat.one_ne_zero), fun others missing => ?_, ?_⟩
  · exact (same others _ _ name rfl missing).trans fails
  · have answer := (looksUp _ {} (BoundSlot.image {}) 1 found rfl (BoundSlot.load_bytes {})).1 rfl
    have nowhere : (BoundSlot.image {}).nameAt? 1 = none :=
      congrArg (Option.map Symbol.name) (SymbolTable.startingAt?_ofList (BoundSlot.contents {}).symbols 1)
    rw [nowhere] at answer
    exact answer

end ObjectLens.CommandLine
