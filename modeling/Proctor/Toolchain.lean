/-!
# The toolchain

Three programs turn a test into an executable. The compiler is a command with leading arguments,
since it may itself need a program to run it; the other two are single programs.
-/

set_option autoImplicit false

namespace Proctor

inductive Role where
  | compiler
  | assembler
  | linker
  deriving DecidableEq, Repr

namespace Role

def name : Role → String
  | .compiler => "compiler"
  | .assembler => "assembler"
  | .linker => "linker"

def hint : Role → String
  | .compiler => "is a JDK installed?"
  | .assembler => "is llvm installed?"
  | .linker => "is gcc installed?"

end Role

structure Toolchain where
  compiler : List String := ["java", "-cp", "bin", "com.wolfesoftware.dorp.Main"]
  assembler : String := "llc"
  linker : String := "gcc"
  deriving DecidableEq, Repr

namespace Toolchain

/-- Replaces the compiler command; a command with no words is ignored. -/
def withCompiler (t : Toolchain) (command : List String) : Toolchain :=
  if command.isEmpty then t else { t with compiler := command }

def withAssembler (t : Toolchain) (program : String) : Toolchain :=
  { t with assembler := program }

def withLinker (t : Toolchain) (program : String) : Toolchain :=
  { t with linker := program }

/-- The program that plays a part; an empty command names none. -/
def program (t : Toolchain) : Role → String
  | .compiler => t.compiler.headD ""
  | .assembler => t.assembler
  | .linker => t.linker

def leadingArguments (t : Toolchain) : Role → List String
  | .compiler => t.compiler.tail
  | .assembler => []
  | .linker => []

end Toolchain

end Proctor
