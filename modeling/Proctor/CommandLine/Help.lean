import Proctor.CommandLine.Vocabulary

/-!
# Help

The text that explains the command line, laid out in two columns.
-/

set_option autoImplicit false

namespace Proctor

namespace CommandLine

def programName : String := "annotest"

def versionText : String := programName ++ " 0.1.0\n"

def leftColumn (letter : Option Char) (usage : String) : String :=
  match letter with
  | none => "      " ++ usage
  | some c => "  -" ++ c.toString ++ ", " ++ usage

def columns : List (String × String) :=
  Setting.all.map (fun s => (leftColumn none s.usage, s.about)) ++
    Flag.all.map (fun f => (leftColumn f.letter? f.usage, f.about))

/-- The right column starts two blanks after the longest entry of the left one. -/
def columnWidth : Nat := (columns.map fun row => row.1.length).foldl max 0 + 2

def padded (text : String) (width : Nat) : String :=
  text ++ String.ofList (List.replicate (width - text.length) ' ')

def helpLines : List String :=
  ["Compile, link and run annotated test programs, checking their output",
   "",
   "Usage: " ++ programName ++ " [OPTIONS] [TEST]...",
   "",
   "Arguments:",
   "  [TEST]...  Run only these tests (exact file names); all tests when omitted",
   "",
   "Options:"] ++
    columns.map fun row => padded row.1 columnWidth ++ row.2

def helpText : String := String.join (helpLines.map (· ++ "\n"))

end CommandLine

end Proctor
