/-!
# The words of the command line

Options that take a value, and flags that take none. Each is written with two dashes and its name;
some flags also have a letter.
-/

set_option autoImplicit false

namespace Proctor

namespace CommandLine

inductive Setting where
  | config
  | testDir
  | scratchDir
  | runtime
  | preconditionDir
  | assembler
  | linker
  | compiler
  | timeout
  | execTimeout
  deriving DecidableEq, Repr

inductive Flag where
  | exitFirst
  | checkExitStatus
  | verbose
  | help
  | version
  deriving DecidableEq, Repr

namespace Setting

def all : List Setting :=
  [.config, .testDir, .scratchDir, .runtime, .preconditionDir, .assembler, .linker, .compiler,
   .timeout, .execTimeout]

def name : Setting → String
  | .config => "config"
  | .testDir => "test-dir"
  | .scratchDir => "scratch-dir"
  | .runtime => "runtime"
  | .preconditionDir => "precondition-dir"
  | .assembler => "assembler"
  | .linker => "linker"
  | .compiler => "compiler"
  | .timeout => "timeout"
  | .execTimeout => "exec-timeout"

def placeholder : Setting → String
  | .config => "FILE"
  | .testDir => "DIR"
  | .scratchDir => "DIR"
  | .runtime => "FILE"
  | .preconditionDir => "DIR"
  | .assembler => "PROGRAM"
  | .linker => "PROGRAM"
  | .compiler => "COMMAND"
  | .timeout => "SECS"
  | .execTimeout => "SECS"

def about : Setting → String
  | .config => "Configuration file (default: ./annotest.toml when present)"
  | .testDir => "Directory holding the test sources"
  | .scratchDir => "Scratch directory, wiped at the start of every run"
  | .runtime => "Runtime IR linked into every test"
  | .preconditionDir =>
    "Directory that must exist before running (the compiled compiler driver)"
  | .assembler => "Assembler binary"
  | .linker => "Linker binary"
  | .compiler => "Compiler command: program and leading arguments, split on whitespace"
  | .timeout =>
    "Time limit for each compiler, assembler and linker invocation, in seconds (0 = none)"
  | .execTimeout => "Time limit for each test program, in seconds (0 = none)"

def usage (s : Setting) : String := "--" ++ s.name ++ " <" ++ s.placeholder ++ ">"

def ofName? (name : String) : Option Setting := all.find? fun s => s.name == name

/-- Whether the option takes the next argument for its value whatever it looks like. -/
def takesAnything (s : Setting) : Bool := s == .compiler

end Setting

namespace Flag

def all : List Flag := [.exitFirst, .checkExitStatus, .verbose, .help, .version]

def name : Flag → String
  | .exitFirst => "exitfirst"
  | .checkExitStatus => "check-exit-status"
  | .verbose => "verbose"
  | .help => "help"
  | .version => "version"

def letter? : Flag → Option Char
  | .exitFirst => some 'x'
  | .checkExitStatus => none
  | .verbose => some 'v'
  | .help => some 'h'
  | .version => some 'V'

def about : Flag → String
  | .exitFirst => "Stop on first failure"
  | .checkExitStatus => "Fail tests whose program exits with a non-zero status"
  | .verbose => "Verbose output"
  | .help => "Print help"
  | .version => "Print version"

def usage (f : Flag) : String := "--" ++ f.name

def ofName? (name : String) : Option Flag := all.find? fun f => f.name == name

def ofLetter? (c : Char) : Option Flag := all.find? fun f => f.letter? == some c

end Flag

end CommandLine

end Proctor
