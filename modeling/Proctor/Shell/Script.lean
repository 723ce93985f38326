import Proctor.Shell.Text

/-!
# Scripts

Words are made of pieces, some to be replaced when the script runs; commands are made of words. A
piece may hold a whole command, whose output takes its place.
-/

set_option autoImplicit false

namespace Proctor

namespace Shell

/-- What to do with the value of a parameter. With `colon`, an empty value counts as none. -/
inductive Form where
  | value
  | length
  | fallback (colon : Bool)
  | assign (colon : Bool)
  | require (colon : Bool)
  | alternative (colon : Bool)
  | dropFront (longest : Bool)
  | dropBack (longest : Bool)
  /-- Makes no sense, which shows only when the script gets there. -/
  | bad
  deriving DecidableEq, Repr, Inhabited

def Form.isPattern : Form → Bool
  | .dropFront _ => true
  | .dropBack _ => true
  | _ => false

inductive Direction where
  | input
  | output
  /-- Writes over a file even where that is forbidden. -/
  | overwrite
  | append
  | both
  | duplicateInput
  | duplicateOutput
  | here
  deriving DecidableEq, Repr, Inhabited

mutual

/-- A piece of a word. Quoted pieces are neither split nor matched against files. -/
inductive Piece where
  | literal (text : Text) (quoted : Bool)
  | parameter (name : Text) (form : Form) (word : List Piece) (quoted : Bool)
  | output (body : Command) (quoted : Bool)
  | arithmetic (expression : List Piece) (quoted : Bool)

/-- Sends a descriptor elsewhere. The word says where; for a document it is the text to read. -/
inductive Redirection where
  | redirect (descriptor : Nat) (direction : Direction) (target : List Piece)
  /-- A document that has not been read yet, by number. -/
  | awaited (descriptor : Nat) (document : Nat)

inductive Command where
  | nothing
  | simple (line : Nat) (assignments words : List (List Piece)) (redirections : List Redirection)
  | redirected (line : Nat) (body : Command) (redirections : List Redirection)
  | pipeline (stages : List Command)
  | negated (body : Command)
  | both (left right : Command)
  | either (left right : Command)
  | sequence (left right : Command)
  | background (body : Command)
  | subshell (line : Nat) (body : Command) (redirections : List Redirection)
  | branch (condition yes no : Command)
  | loop (whileTrue : Bool) (condition body : Command)
  | each (line : Nat) (name : Text) (values : List (List Piece)) (body : Command)
  | choice (line : Nat) (subject : List Piece) (arms : List (List (List Piece) × Command))
  | define (name : Text) (body : Command)

end

instance : Inhabited Piece := ⟨.literal [] false⟩
instance : Inhabited Command := ⟨.nothing⟩
instance : Inhabited Redirection := ⟨.redirect 0 .input []⟩

abbrev Word := List Piece

/-! ### Documents

The text of a document comes after the line that asks for it, when the command has been read. -/

mutual

def Piece.fill (documents : List (Nat × Word)) : Piece → Piece
  | .literal text quoted => .literal text quoted
  | .parameter name form word quoted => .parameter name form (fillPieces documents word) quoted
  | .output body quoted => .output (body.fill documents) quoted
  | .arithmetic expression quoted => .arithmetic (fillPieces documents expression) quoted

def fillPieces (documents : List (Nat × Word)) : List Piece → List Piece
  | [] => []
  | piece :: rest => piece.fill documents :: fillPieces documents rest

def fillWords (documents : List (Nat × Word)) : List (List Piece) → List (List Piece)
  | [] => []
  | word :: rest => fillPieces documents word :: fillWords documents rest

def Redirection.fill (documents : List (Nat × Word)) : Redirection → Redirection
  | .redirect descriptor direction target =>
    .redirect descriptor direction (fillPieces documents target)
  | .awaited descriptor document =>
    .redirect descriptor .here ((documents.lookup document).getD [])

def fillRedirections (documents : List (Nat × Word)) : List Redirection → List Redirection
  | [] => []
  | r :: rest => r.fill documents :: fillRedirections documents rest

def Command.fill (documents : List (Nat × Word)) : Command → Command
  | .nothing => .nothing
  | .simple line assignments words redirections =>
    .simple line (fillWords documents assignments) (fillWords documents words)
      (fillRedirections documents redirections)
  | .redirected line body redirections =>
    .redirected line (body.fill documents) (fillRedirections documents redirections)
  | .pipeline stages => .pipeline (fillCommands documents stages)
  | .negated body => .negated (body.fill documents)
  | .both left right => .both (left.fill documents) (right.fill documents)
  | .either left right => .either (left.fill documents) (right.fill documents)
  | .sequence left right => .sequence (left.fill documents) (right.fill documents)
  | .background body => .background (body.fill documents)
  | .subshell line body redirections =>
    .subshell line (body.fill documents) (fillRedirections documents redirections)
  | .branch condition yes no =>
    .branch (condition.fill documents) (yes.fill documents) (no.fill documents)
  | .loop whileTrue condition body =>
    .loop whileTrue (condition.fill documents) (body.fill documents)
  | .each line name values body =>
    .each line name (fillWords documents values) (body.fill documents)
  | .choice line subject arms =>
    .choice line (fillPieces documents subject) (fillArms documents arms)
  | .define name body => .define name (body.fill documents)

def fillCommands (documents : List (Nat × Word)) : List Command → List Command
  | [] => []
  | c :: rest => c.fill documents :: fillCommands documents rest

def fillArms (documents : List (Nat × Word)) :
    List (List (List Piece) × Command) → List (List (List Piece) × Command)
  | [] => []
  | (patterns, body) :: rest =>
    (fillWords documents patterns, body.fill documents) :: fillArms documents rest

end

inductive Fault where
  | unexpected (found : String) (wanted : Option String)
  | unterminatedQuote
  | unterminatedBackquote
  | missing (what : String)
  | badLoopVariable
  | badFunctionName
  deriving DecidableEq, Repr

def Fault.message : Fault → String
  | .unexpected found none => found ++ " unexpected"
  | .unexpected found (some wanted) => found ++ " unexpected (expecting " ++ wanted ++ ")"
  | .unterminatedQuote => "Unterminated quoted string"
  | .unterminatedBackquote => "EOF in backquote substitution"
  | .missing what => "Missing '" ++ what ++ "'"
  | .badLoopVariable => "Bad for loop variable"
  | .badFunctionName => "Bad function name"

end Shell

end Proctor
