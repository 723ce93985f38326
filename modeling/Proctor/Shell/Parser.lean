import Proctor.Shell.Lexer

/-!
# Reading commands

One complete command is read at a time, up to the end of its line, so that a script runs up to the
point where it stops making sense. A word may hold commands of its own, so words and commands are
read by one another. Fuel is a multiple of the length of the text.
-/

set_option autoImplicit false

namespace Proctor

namespace Shell

structure Check where
  /-- Line ends before it are passed over. -/
  newlines : Bool := false
  keywords : Bool := false
  aliases : Bool := false
  /-- It ends a document, and nothing is replaced in it. -/
  endMark : Bool := false
  deriving DecidableEq, Repr

structure Awaited where
  number : Nat
  delimiter : Text
  dashed : Bool
  quoted : Bool

structure ParserState where
  source : Source
  held : Option Token := none
  check : Check := {}
  aliases : List (Text × Text) := []
  awaited : List Awaited := []
  documents : List (Nat × Word) := []
  fresh : Nat := 0

abbrev Parser := StateT ParserState (Except (Fault × Nat))

namespace Parser

def fail {α : Type} (fault : Fault) : Parser α := fun st => .error (fault, st.source.line)

def unexpected {α : Type} (token : Token) (wanted : Option String := none) : Parser α :=
  fail (.unexpected token.show wanted)

def hold (token : Token) : Parser Unit := fun st => .ok ((), { st with held := some token })

def expect (check : Check) : Parser Unit := fun st => .ok ((), { st with check })

def line : Parser Nat := fun st => .ok (st.source.line, st)

def endsList (token : Token) : Bool :=
  match token with
  | .eof => true
  | .rightParen => true
  | .doubleSemicolon => true
  | .keyword name => ["do", "done", "elif", "else", "esac", "fi", "then", "\x7d"].contains name
  | _ => false

def classified (token : Token) : Token :=
  match token.plain? with
  | none => token
  | some text =>
    let name := String.ofList text
    if reserved.contains name then .keyword name else token

def plainText : List Piece → Text
  | [] => []
  | .literal text _ :: rest => text ++ plainText rest
  | _ :: rest => plainText rest

def anyQuoted (pieces : List Piece) : Bool :=
  pieces.any fun piece =>
    match piece with
    | .literal _ quoted => quoted
    | _ => false

def awaitDocument (delimiter : Word) (dashed : Bool) : Parser Nat := fun st =>
  let awaited : Awaited := ⟨st.fresh, plainText delimiter, dashed, anyQuoted delimiter⟩
  .ok (st.fresh, { st with awaited := st.awaited ++ [awaited], fresh := st.fresh + 1 })

def isAssignment : Word → Bool
  | .literal text false :: _ =>
    match Text.cutAt (· == '=') text with
    | (name, some _) => Text.isName name
    | _ => false
  | _ => false

def redirectDigit? : List Piece → Option (Option Nat)
  | [] => some none
  | [.literal [c] false] => if c.isDigit then some (some (Text.digitValue c)) else none
  | _ => none

structure Parts where
  assignments : List Word := []
  words : List Word := []
  redirections : List Redirection := []

def withRedirections (line : Nat) (c : Command) : List Redirection → Command
  | [] => c
  | rs =>
    match c with
    | .subshell line body [] => .subshell line body rs
    | c => .redirected line c rs

def andThen : Option Command → Command → Command
  | none, c => c
  | some first, c => .sequence first c

mutual

/-- Reads pieces up to the end that the mode sets, after those read already, in reverse. -/
def pieces (fuel : Nat) (mode : Mode) (done : List Piece) : Parser (List Piece) := fun st =>
  match fuel with
  | 0 => fail .unterminatedQuote st
  | fuel + 1 =>
    let go (mode : Mode) (done : List Piece) (s : Source) : Reading (List Piece × ParserState) :=
      pieces fuel mode done { st with source := s }
    let keep (c : Char) (s : Source) : Reading (List Piece × ParserState) :=
      go (mode.after c) (addChar done c mode.quoted) (s.skip 1)
    let inside (delimiter : Text) (dashed : Bool) : Reading (List Piece × ParserState) :=
      match documentLine delimiter dashed st.source with
      | (s, true) => .ok (done, { st with source := s })
      | (s, false) => go (.document delimiter dashed false) done s
    match mode with
    | .document delimiter dashed true => inside delimiter dashed
    | _ =>
      let s := st.source.eat
      match s.rest with
      | [] =>
        match mode.mayEnd with
        | none => .ok (done, { st with source := s })
        | some fault => .error (fault, s.line)
      | ['\\'] => go mode (addChar done '\\' true) (s.skip 1)
      | '\\' :: c :: _ =>
        let escaped := if mode.escapes c then done else addChar done '\\' true
        go (mode.after 'x') (addChar escaped c true) (s.skip 2)
      | '\'' :: rest =>
        if mode.quoted then keep '\'' s
        else
          let text := rest.takeWhile (· ≠ '\'')
          let s := s.skip (text.length + 1)
          if s.rest.isEmpty then .error (.unterminatedQuote, s.line)
          else go mode (text.foldl (fun done c => addChar done c true) (.literal [] true :: done))
            (s.skip 1)
      | '\x22' :: _ =>
        match mode with
        | .doubleQuoted => .ok (done, { st with source := s.skip 1 })
        | .document .. => keep '\x22' s
        | .arithmetic _ => keep '\x22' s
        | _ => do
          let (done, st) ←
            pieces fuel .doubleQuoted (.literal [] true :: done) { st with source := s.skip 1 }
          pieces fuel mode done st
      | '$' :: _ =>
        if mode = .endMark then keep '$' s
        else do
          let (piece, st) ← dollar fuel mode { st with source := (s.skip 1).eat }
          match piece with
          | none => pieces fuel (mode.after '$') (addChar done '$' mode.quoted) st
          | some piece => pieces fuel (mode.after '$') (piece :: done) st
      | '\x60' :: _ =>
        if mode = .endMark then go mode (addChar done '\x60' true) (s.skip 1)
        else do
          let (body, st) ← backquote fuel (mode.quoted && !mode.isDocument)
            { st with source := s.skip 1 }
          pieces fuel (mode.after 'x') (.output body mode.quoted :: done) st
      | c :: _ =>
        if (mode = .bare || mode = .endMark) && isMeta c then .ok (done, { st with source := s })
        else if c == '}' && mode.isBraced then .ok (done, { st with source := s.skip 1 })
        else if c == ')' && mode = .arithmetic 0 then
          let after := (s.skip 1).eat
          if after.rest.head? == some ')' then .ok (done, { st with source := after.skip 1 })
          else go mode (addChar done ')' true) after
        else keep c s

def dollar (fuel : Nat) (mode : Mode) : Parser (Option Piece) := fun st =>
  match fuel with
  | 0 => fail .unterminatedQuote st
  | fuel + 1 =>
    let s := st.source
    let quoted := mode.quoted
    match s.rest with
    | '(' :: _ =>
      let second := (s.skip 1).eat
      if second.rest.head? == some '(' then do
        let (inside, st) ← pieces fuel (.arithmetic 0) [] { st with source := second.skip 1 }
        return (some (.arithmetic (settlePieces inside) quoted), st)
      else do
        let (body, st) ← substitution fuel { st with source := second }
        return (some (.output body quoted), st)
    | '{' :: _ =>
      match bracedName (s.skip 1) with
      | (none, after) => do
        let (word, st) ← pieces fuel (.braced quoted) [] { st with source := after }
        return (some (.parameter [] .bad (settlePieces word) quoted), st)
      | (some (name, true), after) =>
        let form : Form := if after.eat.rest.head? == some '}' then .length else .bad
        do
          let (word, st) ← pieces fuel (.braced quoted) [] { st with source := after }
          return (some (.parameter name form (settlePieces word) quoted), st)
      | (some (name, false), after) =>
        match formAfter after with
        | (form, after, true) =>
          return (some (.parameter name form [] quoted), { st with source := after })
        | (form, after, false) => do
          let mode : Mode := .braced (quoted && !form.isPattern)
          let (word, st) ← pieces fuel mode [] { st with source := after }
          return (some (.parameter name form (settlePieces word) quoted), st)
    | c :: _ =>
      let plain (name : Text) (after : Source) : Reading (Option Piece × ParserState) :=
        .ok (some (.parameter name .value [] quoted), { st with source := after })
      if Text.isNameStart c then
        let (name, after) := s.takeWhile Text.isNameChar (s.rest.length + 1)
        plain name after
      else if c.isDigit || isSpecial c then plain [c] (s.skip 1)
      else .ok (none, st)
    | [] => .ok (none, st)

def substitution (fuel : Nat) : Parser Command := fun st =>
  match fuel with
  | 0 => fail .unterminatedQuote st
  | fuel + 1 => do
    let (body, inner) ← list fuel false true none { st with held := none, awaited := [] }
    let (token, inner) ← readToken fuel inner
    match token with
    | .rightParen =>
      return (body.getD .nothing, { inner with held := none, awaited := st.awaited })
    | token => unexpected token (some (quotedName ")")) inner

def backquote (fuel : Nat) (quoted : Bool) : Parser Command := fun st =>
  match fuel with
  | 0 => fail .unterminatedQuote st
  | fuel + 1 =>
    match backquoted quoted (st.source.rest.length + 1) st.source [] with
    | none =>
      .error (.unterminatedBackquote, st.source.line + st.source.rest.count '\n')
    | some (script, after) => do
      let (body, inner) ←
        list fuel false true none
          { st with source := { rest := script }, held := none, awaited := [] }
      return (body.getD .nothing,
        { inner with source := after, held := none, awaited := st.awaited })

def rawToken (fuel : Nat) (endMark : Bool) : Parser Token := fun st =>
  match fuel with
  | 0 => fail .unterminatedQuote st
  | fuel + 1 =>
    let s := st.source.skipBlanks (st.source.rest.length + 1)
    let check := { st.check with aliases := st.check.aliases || st.source.opensBetween s }
    let st := { st with source := s, check }
    match operatorToken s with
    | some (token, after) => .ok (token, { st with source := after })
    | none => do
      let (found, st) ← pieces fuel (if endMark then .endMark else .bare) [] st
      let word := settlePieces found
      match redirectDigit? word with
      | none => return (.word word, st)
      | some descriptor =>
        match redirectAfter descriptor st.source with
        | some (token, after) => return (token, { st with source := after })
        | none => return (.word word, st)

def pastNewlines (fuel : Nat) (token : Token) : Parser Token :=
  match fuel with
  | 0 => return token
  | fuel + 1 =>
    match token with
    | .newline => do
      documents fuel
      let token ← rawToken fuel false
      pastNewlines fuel token
    | token => return token

def readToken (fuel : Nat) : Parser Token := fun st =>
  match fuel with
  | 0 => fail .unterminatedQuote st
  | fuel + 1 => do
    let asked := st.check
    let st := { st with check := {} }
    let (token, st) ←
      match st.held with
      | some token => pure (token, { st with held := none })
      | none => rawToken fuel asked.endMark st
    let (token, st) ← if asked.newlines then pastNewlines fuel token st else pure (token, st)
    let check := { asked with aliases := asked.aliases || st.check.aliases }
    let st := { st with check := {} }
    let token := if check.keywords then classified token else token
    match token.plain? with
    | none => return (token, st)
    | some name =>
      if !check.aliases || st.source.isReplacing name then return (token, st)
      else
        match st.aliases.lookup name with
        | none => return (token, st)
        | some value =>
          readToken fuel { st with source := st.source.replace name value, check }

def documents (fuel : Nat) : Parser Unit := fun st =>
  match fuel with
  | 0 => fail .unterminatedQuote st
  | fuel + 1 =>
    match st.awaited with
    | [] => .ok ((), st)
    | a :: rest =>
      let st := { st with awaited := rest }
      if a.quoted then
        let (text, after) :=
          plainDocument a.delimiter a.dashed (st.source.rest.length + 1) st.source []
        documents fuel { st with
          source := after
          documents := (a.number, [.literal text.reverse true]) :: st.documents }
      else do
        let (found, st) ← pieces fuel (.document a.delimiter a.dashed true) [] st
        documents fuel { st with documents := (a.number, settlePieces found) :: st.documents }

/-- Commands one after another, after those read already. At the top, the end of a line ends
them. -/
def list (fuel : Nat) (top mayEnd : Bool) (done : Option Command) : Parser (Option Command) :=
  match fuel with
  | 0 => fail .unterminatedQuote
  | fuel + 1 => do
    expect { newlines := !top, keywords := true, aliases := true }
    let token ← readToken fuel
    match token with
    | .newline => do
      documents fuel
      return done
    | .eof => do
      documents fuel
      hold .eof
      return done
    | _ => do
      hold token
      if mayEnd && !top && endsList token then return done
      else do
        let c ← andOr fuel
        let token ← readToken fuel
        match token with
        | .ampersand => list fuel top true (some (andThen done (.background c)))
        | .semicolon => list fuel top true (some (andThen done c))
        | .newline => do
          hold token
          list fuel top true (some (andThen done c))
        | .eof => do
          hold token
          list fuel top true (some (andThen done c))
        | _ =>
          if top then unexpected token
          else do
            hold token
            return some (andThen done c)

def inner (fuel : Nat) : Parser Command :=
  match fuel with
  | 0 => fail .unterminatedQuote
  | fuel + 1 => do return (← list fuel false false none).getD .nothing

def andOr (fuel : Nat) : Parser Command :=
  match fuel with
  | 0 => fail .unterminatedQuote
  | fuel + 1 => do moreAndOr fuel (← pipeline fuel)

def moreAndOr (fuel : Nat) (left : Command) : Parser Command :=
  match fuel with
  | 0 => fail .unterminatedQuote
  | fuel + 1 => do
    match ← readToken fuel with
    | .andIf => do
      expect { newlines := true, keywords := true, aliases := true }
      moreAndOr fuel (.both left (← pipeline fuel))
    | .orIf => do
      expect { newlines := true, keywords := true, aliases := true }
      moreAndOr fuel (.either left (← pipeline fuel))
    | token => do
      hold token
      return left

def pipeline (fuel : Nat) : Parser Command :=
  match fuel with
  | 0 => fail .unterminatedQuote
  | fuel + 1 => do
    let token ← readToken fuel
    let negated ←
      match token with
      | .keyword "!" => do
        expect { keywords := true, aliases := true }
        pure true
      | token => do
        hold token
        pure false
    let first ← command fuel
    let rest ← stages fuel
    let c : Command := if rest.isEmpty then first else .pipeline (first :: rest)
    return if negated then .negated c else c

def stages (fuel : Nat) : Parser (List Command) :=
  match fuel with
  | 0 => return []
  | fuel + 1 => do
    match ← readToken fuel with
    | .bar => do
      expect { newlines := true, keywords := true, aliases := true }
      let c ← command fuel
      return c :: (← stages fuel)
    | token => do
      hold token
      return []

def command (fuel : Nat) : Parser Command :=
  match fuel with
  | 0 => fail .unterminatedQuote
  | fuel + 1 => do
    let here ← line
    let token ← readToken fuel
    let ended (c : Command) (closing : String) : Parser Command := do
      let token ← readToken fuel
      match token with
      | .keyword name =>
        if name = closing then return withRedirections here c (← redirections fuel)
        else unexpected token (some (quotedName closing))
      | token => unexpected token (some (quotedName closing))
    match token with
    | .leftParen => do
      let body ← inner fuel
      match ← readToken fuel with
      | .rightParen => return withRedirections here (.subshell here body []) (← redirections fuel)
      | token => unexpected token (some (quotedName ")"))
    | .keyword "\x7b" => do ended (← inner fuel) "\x7d"
    | .keyword "if" => do ended (← branches fuel) "fi"
    | .keyword "while" => do ended (← loopParts fuel true) "done"
    | .keyword "until" => do ended (← loopParts fuel false) "done"
    | .keyword "for" => do ended (← eachParts fuel here) "done"
    | .keyword "case" => do
      let c ← choices fuel here
      return withRedirections here c (← redirections fuel)
    | .word _ => do
      hold token
      simpleCommand fuel
    | .redirect .. => do
      hold token
      simpleCommand fuel
    | token => unexpected token

def redirections (fuel : Nat) : Parser (List Redirection) :=
  match fuel with
  | 0 => return []
  | fuel + 1 => do
    expect { keywords := true, aliases := true }
    redirectionsFrom fuel

def redirectionsFrom (fuel : Nat) : Parser (List Redirection) :=
  match fuel with
  | 0 => return []
  | fuel + 1 => do
    match ← readToken fuel with
    | .redirect descriptor direction dashed => do
      let r ← redirection fuel descriptor direction dashed
      return r :: (← redirectionsFrom fuel)
    | token => do
      hold token
      return []

def redirection (fuel : Nat) (descriptor : Nat) (direction : Direction) (dashed : Bool) :
    Parser Redirection :=
  match fuel with
  | 0 => fail .unterminatedQuote
  | fuel + 1 => do
    expect { endMark := direction = .here }
    match ← readToken fuel with
    | .word target =>
      if direction = .here then return .awaited descriptor (← awaitDocument target dashed)
      else return .redirect descriptor direction target
    | token => unexpected token

def simpleCommand (fuel : Nat) : Parser Command :=
  match fuel with
  | 0 => fail .unterminatedQuote
  | fuel + 1 => do simpleParts fuel (← line) true {}

/-- The rest of a simple command. As long as no word has come, names may be replaced. -/
def simpleParts (fuel : Nat) (here : Nat) (atStart : Bool) (p : Parts) : Parser Command :=
  match fuel with
  | 0 => fail .unterminatedQuote
  | fuel + 1 => do
    expect { aliases := atStart }
    let token ← readToken fuel
    let whole : Command :=
      .simple here p.assignments.reverse p.words.reverse p.redirections.reverse
    match token with
    | .word word =>
      if atStart && isAssignment word then
        simpleParts fuel here true { p with assignments := word :: p.assignments }
      else simpleParts fuel here false { p with words := word :: p.words }
    | .redirect descriptor direction dashed => do
      let r ← redirection fuel descriptor direction dashed
      simpleParts fuel here atStart { p with redirections := r :: p.redirections }
    | .leftParen =>
      match p.words, p.assignments, p.redirections with
      | [word], [], [] => definition fuel word
      | _, _, _ => do
        hold token
        return whole
    | token => do
      hold token
      return whole

def definition (fuel : Nat) (word : Word) : Parser Command :=
  match fuel with
  | 0 => fail .unterminatedQuote
  | fuel + 1 => do
    match ← readToken fuel with
    | .rightParen =>
      match (Token.word word).plain? with
      | none => fail .badFunctionName
      | some name =>
        if Text.isName name && !specialCommands.contains (String.ofList name) then do
          expect { newlines := true, keywords := true, aliases := true }
          return .define name (← command fuel)
        else fail .badFunctionName
    | token => unexpected token (some (quotedName ")"))

def branches (fuel : Nat) : Parser Command :=
  match fuel with
  | 0 => fail .unterminatedQuote
  | fuel + 1 => do
    let condition ← inner fuel
    match ← readToken fuel with
    | .keyword "then" => do
      let yes ← inner fuel
      match ← readToken fuel with
      | .keyword "elif" => return .branch condition yes (← branches fuel)
      | .keyword "else" => return .branch condition yes (← inner fuel)
      | token => do
        hold token
        return .branch condition yes .nothing
    | token => unexpected token (some (quotedName "then"))

def loopParts (fuel : Nat) (whileTrue : Bool) : Parser Command :=
  match fuel with
  | 0 => fail .unterminatedQuote
  | fuel + 1 => do
    let condition ← inner fuel
    match ← readToken fuel with
    | .keyword "do" => return .loop whileTrue condition (← inner fuel)
    | token => unexpected token (some (quotedName "do"))

def eachParts (fuel : Nat) (here : Nat) : Parser Command :=
  match fuel with
  | 0 => fail .unterminatedQuote
  | fuel + 1 => do
    let token ← readToken fuel
    match token.plain? with
    | none => fail .badLoopVariable
    | some name =>
      if !Text.isName name then fail .badLoopVariable
      else do
        expect { newlines := true, keywords := true, aliases := true }
        let values ←
          match ← readToken fuel with
          | .keyword "in" => wordsToEnd fuel
          | .semicolon => pure [[.parameter ['@'] .value [] true]]
          | token => do
            hold token
            pure [[.parameter ['@'] .value [] true]]
        expect { newlines := true, keywords := true, aliases := true }
        match ← readToken fuel with
        | .keyword "do" => return .each here name values (← inner fuel)
        | token => unexpected token (some (quotedName "do"))

def wordsToEnd (fuel : Nat) : Parser (List Word) :=
  match fuel with
  | 0 => return []
  | fuel + 1 => do
    match ← readToken fuel with
    | .word word => return word :: (← wordsToEnd fuel)
    | .newline => return []
    | .semicolon => return []
    | token => unexpected token

def choices (fuel : Nat) (here : Nat) : Parser Command :=
  match fuel with
  | 0 => fail .unterminatedQuote
  | fuel + 1 => do
    match ← readToken fuel with
    | .word subject => do
      expect { newlines := true, keywords := true, aliases := true }
      match ← readToken fuel with
      | .keyword "in" => return .choice here subject (← arms fuel subject)
      | token => unexpected token (some (quotedName "in"))
    | token => unexpected token (some "word")

/-- The arms of a choice. What is no word where a pattern should be counts as the word read last. -/
def arms (fuel : Nat) (last : Word) : Parser (List (List Word × Command)) :=
  match fuel with
  | 0 => fail .unterminatedQuote
  | fuel + 1 => do
    expect { newlines := true, keywords := true }
    match ← readToken fuel with
    | .keyword "esac" => return []
    | token => do
      let token ←
        match token with
        | .leftParen => readToken fuel
        | token => pure token
      let patterns ← patternsFrom fuel token last
      let body := (← list fuel false true none).getD .nothing
      expect { newlines := true, keywords := true }
      match ← readToken fuel with
      | .keyword "esac" => return [(patterns, body)]
      | .doubleSemicolon => return (patterns, body) :: (← arms fuel (patterns.getLastD last))
      | token => unexpected token (some (quotedName ";;"))

def patternsFrom (fuel : Nat) (token : Token) (last : Word) : Parser (List Word) :=
  match fuel with
  | 0 => fail .unterminatedQuote
  | fuel + 1 => do
    let word : Word :=
      match token with
      | .word word => word
      | .keyword name => [.literal name.toList false]
      | _ => last
    match ← readToken fuel with
    | .bar => return word :: (← patternsFrom fuel (← readToken fuel) word)
    | .rightParen => return [word]
    | token => unexpected token (some (quotedName ")"))

end

def fuelFor (s : Source) (aliases : List (Text × Text)) : Nat :=
  16 * s.rest.length + 256 + if aliases.isEmpty then 0 else 1000000

def completeCommand (aliases : List (Text × Text)) (s : Source) :
    Reading (Option (Command × Source)) := do
  let (c, after) ← list (fuelFor s aliases) true false none { source := s, aliases }
  match c with
  | some c => return some (c.fill after.documents, after.source)
  | none =>
    match after.held with
    | some .eof => return none
    | _ => return some (.nothing, after.source)

end Parser

end Shell

end Proctor
