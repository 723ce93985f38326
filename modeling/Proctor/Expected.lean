/-!
# Annotations

A test program says what it should print: whatever follows the first `# ` on a line is one line of
expected output. The text is searched from left to right for the mark, and an annotation reaches to
the end of its line, so a later mark on the same line belongs to the annotation. Only a line feed
ends a line; a carriage return before it is kept.
-/

set_option autoImplicit false

namespace Proctor.Expected

def inLine (c : Char) : Bool := c != '\n'

/-- The annotations of a text, found by searching it for the mark. -/
def scan : List Char → List (List Char)
  | [] => []
  | '#' :: ' ' :: rest => rest.takeWhile inLine :: scan (rest.dropWhile inLine)
  | _ :: rest => scan rest
termination_by s => s.length
decreasing_by
  · have := (List.dropWhile_suffix (l := rest) inLine).length_le
    simp only [List.length_cons]
    omega
  · simp

def output (annotations : List (List Char)) : List Char :=
  annotations.flatMap (· ++ ['\n'])

end Proctor.Expected

namespace Proctor

def annotations (source : String) : List String :=
  (Expected.scan source.toList).map String.ofList

def expectedOutput (source : String) : String :=
  String.ofList (Expected.output (Expected.scan source.toList))

end Proctor
