import ObjectLens.CommandLine.Commands
import ObjectLens.CommandLine.Invocation

/-! A run of the program, from its arguments and the files to what it prints and how it exits. -/

namespace ObjectLens.CommandLine

def programName : String := "binary-introspect"

def version : String := "0.1.0"

def usage : String :=
  "Usage: " ++ programName ++ " [OPTIONS] <COMMAND>\n\nCommands:\n" ++
  "  info BINARY              Show format, architecture, table sizes and SHA-256 of a binary\n" ++
  "  function BINARY NAME     Resolve a function by exact name and print its disassembly\n" ++
  "  name BINARY ADDRESS      Name the function starting exactly at an address\n" ++
  "  plt BINARY ADDRESS       Name the imported routine whose stub starts exactly at an address\n" ++
  "  symbols BINARY           List function symbols in symbol-table order\n" ++
  "  stubs BINARY             List dynamic-linking stubs\n\nOptions:\n" ++
  "  --config FILE            Load options from a config file\n" ++
  "  --arch ARCH              Decode as this architecture\n" ++
  "  --att                    Use AT&T syntax for x86 listings\n" ++
  "  --json                   Emit JSON instead of text (after a command)\n" ++
  "  -v, --verbose            Increase verbosity\n" ++
  "  -h, --help               Print help\n" ++
  "  -V, --version            Print version\n"

structure Outcome where
  exitCode : Nat
  output : String
  errors : String
  deriving DecidableEq, Repr, Inhabited

namespace Break

def exitCode : Break → Nat
  | .misuse => 2
  | .failed _ => 1
  | .aborted => 101

/-- What is told beside the output. -/
def errors : Break → String
  | .misuse => usage
  | .failed cause => cause.message ++ "\n"
  | .aborted => programName ++ " broke off while reading the binary\n"

end Break

namespace Outcome

/-- What is seen of a part of the program that has come to its end or stopped, with what it has printed. -/
def ofRun : Except Break Unit × String → Outcome
  | (.ok (), output) => ⟨0, output, ""⟩
  | (.error reason, output) => ⟨reason.exitCode, output, reason.errors⟩

end Outcome

namespace Invocation

def options (invocation : Invocation) (files : String → FileState) : Except ConfigError Config :=
  Config.build (invocation.config.map fun path => (path, files path)) invocation.arch invocation.att

def chosen (invocation : Invocation) (files : String → FileState) : Printing Config :=
  match invocation.options files with
  | .ok config => return config
  | .error error => throw (.failed (.config error))

/-- Answers a question. The options are read before the binary. -/
def answer (invocation : Invocation) (files : String → FileState) : Printing Unit := do
  let config ← invocation.chosen files
  match invocation.command with
  | .info => infoCommand files invocation.binary config invocation.json
  | .function wanted => functionCommand files invocation.binary config invocation.json wanted
  | .name address => nameCommand files invocation.binary config invocation.json address
  | .plt address => pltCommand files invocation.binary config invocation.json address
  | .symbols => symbolsCommand files invocation.binary config invocation.json
  | .stubs => stubsCommand files invocation.binary config invocation.json

end Invocation

/-- The program as a whole, where the files are known by their paths. -/
def program (files : String → FileState) (arguments : List String) : Printing Unit :=
  match Invocation.parse arguments with
  | .ok invocation => invocation.answer files
  | .error .misuse => throw .misuse
  | .error .help => print usage
  | .error .version => printLine (programName ++ " " ++ version)

/-- A run of the program with some arguments. -/
def run (files : String → FileState) (arguments : List String) : Outcome := .ofRun ((program files arguments).run "")

end ObjectLens.CommandLine
