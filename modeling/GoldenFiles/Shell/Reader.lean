import GoldenFiles.Shell.Token

/-!
# Reading scripts

A script is read one complete line at a time, as it is run: a mistake further
down does not keep the commands above it from running.

The functions call each other in a circle, through every kind of nesting. Each
call is given one less step than its caller had, and a script is given more
steps than its characters can take.
-/

namespace GoldenFiles.Shell

open Program (Text)

/-- Where a row of parts ends. -/
inductive Until where
  /-- In front of a character that ends a word. -/
  | wordEnd
  /-- Behind the closing quote. -/
  | quote
  /-- Behind the closing brace; inside quotes, all is quoted. The brace may stand in
  a text that ends anyway. -/
  | brace (quoted inText : Bool)
  /-- Behind two closing parentheses, or one for each that is open. -/
  | parentheses (depth : Nat)
  /-- At the end of the text, all of it quoted. -/
  | never
  deriving DecidableEq, Repr

/-- Whether characters stand for themselves there. -/
def Until.quotes : Until → Bool
  | wordEnd => false
  | brace quoted _ => quoted
  | quote | parentheses _ | never => true

/-- Whether double quotes stand for themselves there. -/
def Until.isPlain : Until → Bool
  | parentheses _ | never => true
  | _ => false

/-- Whether the text ends anyway there. -/
def Until.inText : Until → Bool
  | never => true
  | brace _ inText => inText
  | _ => false

/-- The mistake of a text that ends before a row of parts does. -/
def Until.unreached : Until → Mistake
  | brace quoted inText => if quoted && !inText then .openQuote else .openBrace []
  | parentheses _ => .openArithmetic
  | _ => .openQuote

mutual

/-- Reads parts of a word up to an end. -/
def parts (source : Source) : (fuel : Nat) → Until → Text → Except Mistake (Word × Text)
  | 0, stop, _ => .error stop.unreached
  | fuel + 1, stop, text =>
      let quoted := stop.quotes
      let isBrace : Bool := match stop with
        | .brace .. => true
        | _ => false
      let go (stop : Until) (more : Word → Word) (rest : Text) :
          Except Mistake (Word × Text) := do
        let (word, rest) ← parts source fuel stop rest
        return (more word, rest)
      match text with
      | [] => if stop = .wordEnd ∨ stop = .never then .ok ([], []) else .error stop.unreached
      | '\\' :: '\n' :: rest => go stop id rest
      | '\\' :: c :: rest =>
          if !quoted ∨ c ∈ ['$', '\x60', '\\'] ∨ (c = '\x22' ∧ stop ≠ .never) ∨
              (c = '\x7d' ∧ isBrace) then
            go stop (addText true [c]) rest
          else go stop (addText true ['\\', c]) rest
      | '$' :: rest => do
          let (part, rest) ← dollar source fuel stop rest
          go stop (part :: ·) rest
      | '\x60' :: rest =>
          match backquoted quoted rest with
          | none => .error .openBackquote
          | some (script, rest) =>
              let inner := source.within 1 script
              let outside (mistake : Mistake) : Mistake :=
                { mistake with
                  rest := rest, line := mistake.line.or (some (inner.lineOf mistake.rest)) }
              match commands inner fuel false script with
              | .ok (body, []) => go stop (.printed quoted body :: ·) rest
              | .ok (_, next) => .error (outside (.unexpected none next))
              | .error mistake => .error (outside mistake)
      | '\x22' :: rest =>
          if stop = .quote then .ok ([], rest)
          else if stop.isPlain then go stop (addText true ['\x22']) rest
          else do
            let (inner, rest) ← parts source fuel .quote rest
            go stop ((if isAllArguments inner then inner else .text true [] :: inner) ++ ·) rest
      | '\x27' :: rest =>
          if quoted then go stop (addText true ['\x27']) rest
          else
            let inner := rest.takeWhile (· ≠ '\x27')
            match rest.drop inner.length with
            | [] => .error .openQuote
            | _ :: rest => go stop (addText true inner) rest
      | c :: rest =>
          match stop with
          | .wordEnd => if endsWord c then .ok ([], c :: rest) else go stop (addText false [c]) rest
          | .brace .. => if c = '\x7d' then .ok ([], rest) else go stop (addText quoted [c]) rest
          | .parentheses depth =>
              if c = '(' then go (.parentheses (depth + 1)) (addText false [c]) rest
              else if c ≠ ')' then go stop (addText false [c]) rest
              else if 0 < depth then go (.parentheses (depth - 1)) (addText false [c]) rest
              else
                match skipJoins rest with
                | ')' :: rest => .ok ([], rest)
                | rest => go stop (addText false [c]) rest
          | .quote | .never => go stop (addText true [c]) rest

/-- Reads what follows a dollar sign. -/
def dollar (source : Source) : (fuel : Nat) → (within : Until) → Text →
    Except Mistake (Part × Text)
  | 0, _, text => .error (.unexpected none text)
  | fuel + 1, within, text =>
      let quoted := within.quotes
      match skipJoins text with
      | '(' :: rest =>
          match skipJoins rest with
          | '(' :: rest => do
              let (expression, rest) ← parts source fuel (.parentheses 0) rest
              return (.arithmetic quoted expression, rest)
          | rest => do
              let (body, rest) ← commands source fuel false rest
              return (.printed quoted body, ← expectClosing rest)
      | '\x7b' :: rest => braced source fuel within (skipJoins rest)
      | text =>
          match parameterName? text with
          | some (name, rest) => .ok (.parameter quoted name .value, rest)
          | none => .ok (.text quoted ['$'], text)

/-- Reads a parameter in braces. -/
def braced (source : Source) : (fuel : Nat) → (within : Until) → Text →
    Except Mistake (Part × Text)
  | 0, _, text => .error (.openBrace text)
  | fuel + 1, within, text =>
      let quoted := within.quotes
      let word (quoted : Bool) (text : Text) : Except Mistake (Word × Text) :=
        parts source fuel (.brace quoted within.inText) text
      let unknown (text : Text) : Except Mistake (Part × Text) := do
        let (_, rest) ← word quoted text
        return (.parameter quoted [] .unknown, rest)
      match lengthName? text with
      | some (name, '\x7d' :: rest) =>
          if isName name ∨ name.all Char.isDigit ∨ name.all isSpecial then
            .ok (.parameter quoted name .length, rest)
          else unknown ('\x7d' :: rest)
      | some (_, rest) => unknown rest
      | none =>
          match bracedName? text with
          | none => unknown (if text.head? = some '\x7d' then text else text.tail)
          | some (name, '\x7d' :: rest) => .ok (.parameter quoted name .value, rest)
          | some (name, rest) =>
              match operator? rest with
              | none => unknown rest
              | some (.choice make, orEmpty, rest) => do
                  let (word, rest) ← word quoted rest
                  let word := if quoted then word else withHome word
                  return (.parameter quoted name (make orEmpty word), rest)
              | some (.trim how, _, rest) => do
                  let (word, rest) ← word false rest
                  return (.parameter quoted name (.trim how word), rest)

/-- Reads commands up to a word or sign that ends them, at least one if needed. -/
def commands (source : Source) : (fuel : Nat) → (needed : Bool) → Text →
    Except Mistake (Command × Text)
  | 0, _, text => .error (.unexpected none text)
  | fuel + 1, needed, text =>
      let text := skipLines false text
      if atCloser text then
        if needed ∧ text ≠ [] then .error (.unexpected none text) else .ok (.empty, text)
      else do
        let (first, rest) ← chain source fuel text
        let more (first : Command) (rest : Text) : Except Mistake (Command × Text) := do
          let (next, rest) ← commands source fuel false rest
          return (.sequence first next, rest)
        match skipBlanks rest with
        | ';' :: ';' :: rest => return (first, ';' :: ';' :: rest)
        | ';' :: rest | '\n' :: rest => more first rest
        | '&' :: rest => more (.background first) rest
        | rest => return (first, rest)

/-- Reads commands that depend on each other's success. -/
def chain (source : Source) : (fuel : Nat) → Text → Except Mistake (Command × Text)
  | 0, text => .error (.unexpected none text)
  | fuel + 1, text => do
      let (first, rest) ← pipeline source fuel text
      chainAfter source fuel first rest

/-- Reads what depends on the success of a command. -/
def chainAfter (source : Source) : (fuel : Nat) → Command → Text →
    Except Mistake (Command × Text)
  | 0, _, text => .error (.unexpected none text)
  | fuel + 1, first, text =>
      match skipBlanks text with
      | '&' :: '&' :: rest => do
          let (second, rest) ← pipeline source fuel (skipLines false rest)
          chainAfter source fuel (.and first second) rest
      | '|' :: '|' :: rest => do
          let (second, rest) ← pipeline source fuel (skipLines false rest)
          chainAfter source fuel (.or first second) rest
      | rest => .ok (first, rest)

/-- Reads commands that read what others print. -/
def pipeline (source : Source) : (fuel : Nat) → Text → Except Mistake (Command × Text)
  | 0, text => .error (.unexpected none text)
  | fuel + 1, text =>
      let text := skipBlanks text
      match after? "!" text with
      | some rest => do
          let (body, rest) ← pipes source fuel rest
          return (.not body, rest)
      | none => pipes source fuel text

/-- Reads commands with pipes between them. -/
def pipes (source : Source) : (fuel : Nat) → Text → Except Mistake (Command × Text)
  | 0, text => .error (.unexpected none text)
  | fuel + 1, text => do
      let (first, rest) ← command source fuel (skipBlanks text)
      match skipBlanks rest with
      | '|' :: '|' :: rest => return (first, '|' :: '|' :: rest)
      | '|' :: rest =>
          let (second, rest) ← pipes source fuel (skipLines false rest)
          return (.pipe first second, rest)
      | rest => return (first, rest)

/-- Reads one command. -/
def command (source : Source) : (fuel : Nat) → Text → Except Mistake (Command × Text)
  | 0, text => .error (.unexpected none text)
  | fuel + 1, text =>
      let text := source.unaliased fuel [] text
      if atCloser text ∨ (after? "!" text).isSome ∨ (after? "in" text).isSome then
        .error (.unexpected none text)
      else
        match compound source fuel text with
        | some reading => do
            let (body, rest) ← reading
            let (redirections, rest) ← redirectionsAfter source fuel rest
            let line := source.lineOf text
            return (if redirections.isEmpty then body else .redirected line body redirections, rest)
        | none => do
            let (draft, rest) ← simple source fuel {} text
            match draft.words, rest with
            | [name], '(' :: inner =>
                if draft.assignments.isEmpty ∧ draft.redirections.isEmpty then
                  let rest ← expectClosingWord inner
                  match (literal? name).filter isName with
                  | some name =>
                      let (body, rest) ← command source fuel (skipLines false rest)
                      return (.define name body, rest)
                  | none => .error (.syntactic "Bad function name" rest)
                else .error (.unexpected none rest)
            | _, '(' :: _ => .error (.unexpected none rest)
            | words, _ =>
                if words.isEmpty ∧ draft.assignments.isEmpty ∧ draft.redirections.isEmpty then
                  .error (.unexpected none text)
                else
                  let line := draft.line.getD (source.lineOf text)
                  return (.simple line draft.assignments words draft.redirections, rest)

/-- Reads a command that is built from others, if one comes next. -/
def compound (source : Source) : (fuel : Nat) → Text → Option (Except Mistake (Command × Text))
  | 0, text => some (.error (.unexpected none text))
  | fuel + 1, text =>
      let (word, rest) := plainWord text
      match text, String.ofList word with
      | '(' :: rest, _ => some do
          let (body, rest) ← commands source fuel true rest
          return (.subshell (source.lineOf text) body, ← expectClosing rest)
      | _, word =>
          if !rest.head?.all endsWord then none
          else
            match word with
            | "\x7b" => some do
                let (body, rest) ← commands source fuel true rest
                return (body, ← expectWord "\x7d" rest)
            | "if" => some (conditional source fuel rest)
            | "while" | "until" => some do
                let (test, rest) ← commands source fuel true rest
                let (body, rest) ← commands source fuel true (← expectWord "do" rest)
                return (.loop (word = "until") test body, ← expectWord "done" rest)
            | "for" => some (repetition source fuel rest)
            | "case" => some (selection source fuel rest)
            | _ => none

/-- Reads the rest of a conditional. -/
def conditional (source : Source) : (fuel : Nat) → Text → Except Mistake (Command × Text)
  | 0, text => .error (.unexpected none text)
  | fuel + 1, text => do
      let (test, rest) ← commands source fuel true text
      let (yes, rest) ← commands source fuel true (← expectWord "then" rest)
      match after? "elif" rest, after? "else" rest with
      | some rest, _ =>
          let (no, rest) ← conditional source fuel rest
          return (.choice test yes no, rest)
      | none, some rest =>
          let (no, rest) ← commands source fuel true rest
          return (.choice test yes no, ← expectWord "fi" rest)
      | none, none => return (.choice test yes .empty, ← expectWord "fi" rest)

/-- Reads the rest of a loop over words. -/
def repetition (source : Source) : (fuel : Nat) → Text → Except Mistake (Command × Text)
  | 0, text => .error (.unexpected none text)
  | fuel + 1, text =>
      let text := skipBlanks text
      let (name, next) := plainWord text
      if !isName name ∨ !next.head?.all endsWord then
        .error (.syntactic "Bad for loop variable" (if name = [] then text.drop 1 else next))
      else do
        let next := skipLines false next
        let (words, rest) ← match after? "in" next with
          | none =>
              pure (none, match next with
                | ';' :: rest => rest
                | _ => next)
          | some rest =>
              let (words, rest) ← wordsUntilEnd source fuel rest
              match rest with
              | ';' :: rest | '\n' :: rest => pure (some words, rest)
              | _ => .error (.unexpected none rest)
        let (body, rest) ← commands source fuel true (← expectWord "do" (skipLines false rest))
        return (.forEach (source.lineOf text) name words body, ← expectWord "done" rest)

/-- Reads words to the end of a line or a sign. -/
def wordsUntilEnd (source : Source) : (fuel : Nat) → Text → Except Mistake (List Word × Text)
  | 0, text => .error (.unexpected none text)
  | fuel + 1, text =>
      let text := skipBlanks text
      if text.head?.all endsWord then .ok ([], text)
      else do
        let (word, rest) ← parts source fuel .wordEnd text
        let (words, rest) ← wordsUntilEnd source fuel rest
        return (withHome word :: words, rest)

/-- Reads the rest of a selection. -/
def selection (source : Source) : (fuel : Nat) → Text → Except Mistake (Command × Text)
  | 0, text => .error (.unexpected none text)
  | fuel + 1, text =>
      let text := skipBlanks text
      if text.head?.all endsWord then .error (.unexpected (some "word") text)
      else do
        let (subject, rest) ← parts source fuel .wordEnd text
        let (arms, rest) ← arms source fuel (← expectWord "in" (skipLines false rest))
        return (.select (source.lineOf text) (withHome subject) arms, rest)

/-- Reads the arms of a selection. -/
def arms (source : Source) : (fuel : Nat) → Text →
    Except Mistake (List (List Word × Command) × Text)
  | 0, text => .error (.unexpected none text)
  | fuel + 1, text =>
      let text := skipLines false text
      match after? "esac" text with
      | some rest => .ok ([], rest)
      | none => do
          let (patterns, rest) ← patterns source fuel (match text with
            | '(' :: rest => rest
            | _ => text)
          let (body, rest) ← commands source fuel false rest
          match rest with
          | ';' :: ';' :: rest =>
              let (arms, rest) ← arms source fuel rest
              return ((patterns, body) :: arms, rest)
          | _ =>
              match after? "esac" rest with
              | some rest => return ([(patterns, body)], rest)
              | none => .error (.unexpected (some (shown ";;")) rest)

/-- Reads the patterns of an arm. A sign where a pattern should be is passed over. -/
def patterns (source : Source) : (fuel : Nat) → Text → Except Mistake (List Word × Text)
  | 0, text => .error (.unexpected none text)
  | fuel + 1, text => do
      let (pattern, rest) ← parts source fuel .wordEnd (skipBlanks text)
      let rest := if pattern.isEmpty then rest.drop (signLength rest) else rest
      match skipBlanks rest with
      | '|' :: '|' :: rest => .error (.unexpected (some (shown ")")) ('|' :: '|' :: rest))
      | '|' :: rest =>
          let (more, rest) ← patterns source fuel rest
          return (withHome pattern :: more, rest)
      | rest => return ([withHome pattern], ← expectClosingWord rest)

/-- Reads a redirection, if one comes next. -/
def redirection (source : Source) : (fuel : Nat) → Text →
    Except Mistake (Option Redirection × Text)
  | 0, text => .error (.unexpected none text)
  | fuel + 1, text =>
      match redirection? text with
      | none => .ok (none, text)
      | some (descriptor, direction, dropTabs, next) => do
          let (word, rest) ← parts source fuel .wordEnd (skipBlanks next)
          if word.isEmpty then .error (.unexpected none rest)
          else if direction ≠ .below then
            return (some (.mk descriptor direction (withHome word)), rest)
          else
            let isLiteral := word.any isQuotedText
            let closing := (literal? word).getD []
            let (body, below, rest) := linesBelow closing dropTabs (!isLiteral) rest
            if isLiteral then
              return (some (.mk descriptor direction [.text true body]), rest)
            else
              let (word, _) ← parts (source.within (source.lineOf below) body) fuel .never body
              return (some (.mk descriptor direction word), rest)

/-- Reads the redirections behind a command that is built from others. -/
def redirectionsAfter (source : Source) : (fuel : Nat) → Text →
    Except Mistake (List Redirection × Text)
  | 0, text => .error (.unexpected none text)
  | fuel + 1, text => do
      match ← redirection source fuel (skipBlanks text) with
      | (none, rest) => return ([], rest)
      | (some redirection, rest) =>
          let (more, rest) ← redirectionsAfter source fuel rest
          return (redirection :: more, rest)

/-- Reads the rest of a simple command. -/
def simple (source : Source) : (fuel : Nat) → Draft → Text → Except Mistake (Draft × Text)
  | 0, _, text => .error (.unexpected none text)
  | fuel + 1, draft, text => do
      let upTo (rest : Text) : Draft :=
        { draft with line := draft.line.or (some (source.lineOf rest)) }
      match ← redirection source fuel (skipBlanks text) with
      | (some redirection, rest) =>
          simple source fuel
            { upTo text with redirections := draft.redirections ++ [redirection] } rest
      | (none, text) =>
          let begun := !draft.assignments.isEmpty || !draft.redirections.isEmpty
          let text :=
            if draft.words.isEmpty ∧ begun then source.unaliased fuel [] text else text
          if text.head?.all endsWord then return (draft, text)
          else
            match draft.words.isEmpty, assignment? text with
            | true, some (name, rest) =>
                let (word, rest) ← parts source fuel .wordEnd rest
                let assignment := (name, withHomes true word)
                simple source fuel
                  { upTo rest with assignments := draft.assignments ++ [assignment] } rest
            | _, _ =>
                let (word, rest) ← parts source fuel .wordEnd text
                simple source fuel { upTo rest with words := draft.words ++ [withHome word] } rest

end

/-- The steps that reading a text may take. -/
def Source.steps (source : Source) (text : Text) : Nat :=
  source.aliases.foldl (fun steps entry => steps + 16 * entry.2.length) (16 * (text.length + 4))

/-- Reads the commands of one complete line, of a script with so many lines in
all. -/
def lineCommands (source : Source) : (fuel : Nat) → Text → Except Mistake (Command × Text)
  | 0, text => .error (.unexpected none text)
  | fuel + 1, text =>
      let text := skipBlanks text
      match text with
      | [] => .ok (.empty, [])
      | '\n' :: rest => .ok (.empty, rest)
      | _ => do
          let (first, rest) ← chain source (source.steps text) text
          let more (first : Command) (rest : Text) : Except Mistake (Command × Text) := do
            let (next, rest) ← lineCommands source fuel rest
            return (.sequence first next, rest)
          match skipBlanks rest with
          | [] => return (first, [])
          | '\n' :: rest => return (first, rest)
          | ';' :: ';' :: _ => .error (.unexpected none rest)
          | ';' :: rest => more first rest
          | '&' :: rest => more (.background first) rest
          | rest => .error (.unexpected none rest)

/-- Reads the next line of commands, if any is left. -/
def nextLine (source : Source) (text : Text) : Option (Except Mistake (Command × Text)) :=
  match skipLines false text with
  | [] => none
  | text => some (lineCommands source (source.steps text) text)

end GoldenFiles.Shell
