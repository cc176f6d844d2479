import Lexicon.Shell.Token

namespace Lexicon.Shell

open Read

def isMeta (c : Char) : Bool := [' ', '\t', '\n', ';', '&', '|', '<', '>', '(', ')'].contains c

def isSpecial (c : Char) : Bool := c.isDigit || ['@', '*', '#', '?', '-', '$', '!'].contains c

inductive Surrounding where
  | bare
  | quotes (inBraces : Bool)
  | braces (quoted : Bool)
  | innerQuotes
  | arithmetic (depth : Nat)
  | document
  deriving DecidableEq

namespace Surrounding

def quotes? : Surrounding → Bool
  | bare | braces false => false
  | _ => true

def isDouble : Surrounding → Bool
  | bare | braces false => false
  | _ => true

def protects (s : Surrounding) (c : Char) : Bool :=
  !s.isDouble || c == '\\' || c == '`' || c == '$' || (c == '"' && s != document) ||
    (c == '\x7d' && (s == braces true || s == innerQuotes || s == quotes true))

def unfinished : Surrounding → Option String
  | bare | document => none
  | braces false => some "Missing '\x7d'"
  | arithmetic _ => some "Missing '))'"
  | _ => some "Unterminated quoted string"

end Surrounding

def fallbackOf? : Char → Option Fallback
  | '-' => some .useDefault
  | '=' => some .assign
  | '?' => some .complain
  | '+' => some .alternative
  | _ => none

def backquoted (fuel : Nat) (double : Bool) (acc : List Char) : Read (List Char) := do
  match fuel with
  | 0 => fail "EOF in backquote substitution"
  | fuel + 1 =>
    match ← peek with
    | none => fail "EOF in backquote substitution"
    | some '`' => advance; return acc.reverse
    | some '\\' =>
      advance
      match ← peekRaw with
      | none => fail "EOF in backquote substitution"
      | some c =>
        advance
        if c == '`' || c == '\\' || c == '$' || (double && c == '"') then backquoted fuel double (c :: acc)
        else backquoted fuel double (c :: '\\' :: acc)
    | some c => advance; backquoted fuel double (c :: acc)

/-- The lines of a text behind a line, up to its mark. Where the mark was not quoted, a backslash joins lines. -/
def documentLines (fuel : Nat) (w : Waiting) (acc : List Char) : Read (List Char) := do
  match fuel with
  | 0 => return acc
  | fuel + 1 =>
    let s ← get
    if s.rest.isEmpty then return acc
    let rest := if w.strip then s.rest.dropWhile (· == '\t') else s.rest
    let line := rest.takeWhile (· != '\n')
    let after := rest.drop line.length
    set { s with rest := after.drop 1, line := s.line + after.length - (after.drop 1).length }
    if String.ofList line = w.mark then return acc
    else
      let isJoined := !w.quoted && (line.reverse.takeWhile (· == '\\')).length % 2 == 1 && !after.isEmpty
      if isJoined then
        let more ← get
        let next := more.rest.takeWhile (· != '\n')
        let beyond := more.rest.drop next.length
        set { more with rest := beyond.drop 1, line := more.line + beyond.length - (beyond.drop 1).length }
        documentLines fuel w (acc ++ line.dropLast ++ next ++ beyond.take 1)
      else documentLines fuel w (acc ++ line ++ after.take 1)

mutual

def pieces (fuel : Nat) (around : Surrounding) (acc : Word) (quoted : Bool) : Read (Word × Bool) := do
  match fuel with
  | 0 => fail "nesting"
  | fuel + 1 =>
    match ← peek with
    | none =>
      match around.unfinished with
      | some text => fail text
      | none => return (acc, quoted)
    | some c =>
      if around == .bare && isMeta c then return (acc, quoted)
      advance
      match c with
      | '\\' =>
        match ← peekRaw with
        | none => pieces fuel around (acc.push true '\\') quoted
        | some d =>
          advance
          let acc := if around.protects d then acc else acc.push true '\\'
          pieces fuel around (acc.push true d) true
      | '$' =>
        let p ← expansion fuel around
        pieces fuel around (p ++ acc) quoted
      | '`' =>
        let p ← quotedCommand fuel around
        pieces fuel around (p :: acc) quoted
      | '\'' =>
        if around.isDouble then pieces fuel around (acc.push around.quotes? c) quoted
        else
          let text ← takeWhile (· != '\'')
          if (← peekRaw).isNone then fail "Unterminated quoted string"
          advance
          pieces fuel around (.literal true text :: acc) true
      | '"' =>
        match around with
        | .bare | .braces false =>
          let (inner, _) ← pieces fuel (.quotes (around != .bare)) [] true
          let inner := match inner with
            | [.parameter true "@"] => inner
            | _ => .literal true "" :: inner ++ [.literal true ""]
          pieces fuel around (inner ++ acc) true
        | .quotes _ | .innerQuotes => return (acc, true)
        | .braces true =>
          let (inner, _) ← pieces fuel .innerQuotes [] true
          pieces fuel around (inner ++ acc) true
        | .arithmetic _ | .document => pieces fuel around (acc.push true c) quoted
      | '\x7d' =>
        match around with
        | .braces _ => return (acc, quoted)
        | _ => pieces fuel around (acc.push around.quotes? c) quoted
      | '(' =>
        match around with
        | .arithmetic depth => pieces fuel (.arithmetic (depth + 1)) (acc.push true c) quoted
        | _ => pieces fuel around (acc.push around.quotes? c) quoted
      | ')' =>
        match around with
        | .arithmetic (depth + 1) => pieces fuel (.arithmetic depth) (acc.push true c) quoted
        | .arithmetic 0 =>
          if ← skipIf ')' then return (acc, quoted) else pieces fuel around (acc.push true c) quoted
        | _ => pieces fuel around (acc.push around.quotes? c) quoted
      | _ => pieces fuel around (acc.push around.quotes? c) quoted

def expansion (fuel : Nat) (around : Surrounding) : Read Word := do
  match fuel with
  | 0 => fail "nesting"
  | fuel + 1 =>
    let quoted := around.quotes?
    match ← peek with
    | some '(' =>
      advance
      if ← skipIf '(' then
        let (inner, _) ← pieces fuel (.arithmetic 0) [] false
        return [.arithmetic quoted inner.reverse]
      else return [.substitution quoted (← enclosedCommands fuel)]
    | some '\x7b' =>
      advance
      return [← inBraces fuel around]
    | some c =>
      if isNameStart c then return [.parameter quoted (← takeWhile isNameRest)]
      else if isSpecial c then
        advance
        return [.parameter quoted (String.singleton c)]
      else return [.literal quoted "$"]
    | none => return [.literal quoted "$"]

def enclosedCommands (fuel : Nat) : Read Script := do
  match fuel with
  | 0 => fail "nesting"
  | fuel + 1 =>
    let outer := (← get).waiting
    modify fun s => { s with waiting := [] }
    let body ← list fuel 2
    match ← token fuel false false false with
    | .operator ")" =>
      readDocuments fuel
      modify fun s => { s with waiting := outer }
      return body
    | t => unexpected t (some (.operator ")"))

def quotedCommand (fuel : Nat) (around : Surrounding) : Read Piece := do
  match fuel with
  | 0 => fail "nesting"
  | fuel + 1 =>
    let text ← backquoted (fuel + 1) around.isDouble []
    let outer ← get
    set { outer with rest := text, line := 1, waiting := [], pushed := none, replaced := [] }
    let body ← list fuel 2
    readDocuments fuel
    modify fun s => { outer with documents := s.documents, nextDocument := s.nextDocument }
    return .substitution around.quotes? body

/-- An expansion behind its opening brace. What cannot be understood is passed over up to the closing brace. -/
def inBraces (fuel : Nat) (around : Surrounding) : Read Piece := do
  match fuel with
  | 0 => fail "nesting"
  | fuel + 1 =>
    let quoted := around.quotes?
    let inner : Surrounding := .braces around.isDouble
    let malformed : Read Piece := do
      let _ ← pieces fuel inner [] false
      return .malformed
    let named : Read (Option String) := do
      match ← peek with
      | some c =>
        if isNameStart c then return some (← takeWhile isNameRest)
        else if c.isDigit then return some (← takeWhile Char.isDigit)
        else if c == '\x7d' then return none
        else
          advance
          if isSpecial c then return some (String.singleton c)
          else
            putBack c
            return none
      | none => return none
    let operated (name : String) : Read Piece := do
      match ← peek with
      | some '\x7d' =>
        advance
        return .parameter quoted name
      | some ':' =>
        advance
        match (← peek).bind fallbackOf? with
        | some kind =>
          advance
          return .fallback quoted name kind true (← pieces fuel inner [] false).1.reverse
        | none => malformed
      | some c =>
        match fallbackOf? c with
        | some kind =>
          advance
          return .fallback quoted name kind false (← pieces fuel inner [] false).1.reverse
        | none =>
          if c == '%' || c == '#' then
            advance
            let longest ← skipIf c
            return .trimmed quoted name (c == '%') longest (← pieces fuel (.braces false) [] false).1.reverse
          else malformed
      | none => malformed
    if (← peek) == some '#' then
      advance
      match ← peek with
      | some c =>
        if c == '\x7d' then operated "#"
        else if c == '_' || c.isAlphanum then
          match ← named with
          | some name => if ← skipIf '\x7d' then return .length quoted name else malformed
          | none => malformed
        else
          advance
          if (← peek) == some '\x7d' then
            if isSpecial c then
              advance
              return .length quoted (String.singleton c)
            else malformed
          else
            putBack c
            operated "#"
      | none => malformed
    else
      match ← named with
      | some name => operated name
      | none => malformed

def readDocuments (fuel : Nat) : Read Unit := do
  match fuel with
  | 0 => fail "nesting"
  | fuel + 1 =>
    match (← get).waiting with
    | [] => return ()
    | w :: rest =>
      modify fun s => { s with waiting := rest }
      let text ← documentLines (fuel + 1) w []
      if w.quoted then
        modify fun s => { s with documents := (w.number, [.literal true (String.ofList text)]) :: s.documents }
      else
        let outer ← get
        set { outer with rest := text, waiting := [], pushed := none }
        let (body, _) ← pieces fuel .document [] false
        modify fun s => { outer with
          documents := (w.number, body.reverse) :: s.documents, nextDocument := s.nextDocument }
      readDocuments fuel

/-- The next token: one that was handed back, or one from the text. Where `lines` is set, line breaks are passed
over; where `keywords` is set, reserved words are told apart; and where `names` is set, aliases are replaced. -/
def token (fuel : Nat) (lines keywords names : Bool) : Read Token := do
  match fuel with
  | 0 => fail "nesting"
  | fuel + 1 =>
    let s ← get
    let isBehind := s.pushed.isNone && s.spaced.any ((s.rest.dropWhile fun c => c == ' ' || c == '\t').length ≤ ·)
    let names := names || isBehind
    let s := if isBehind then { s with spaced := none } else s
    set s
    let t ← match s.pushed with
      | some t =>
        set { s with pushed := none }
        pure t
      | none => freshToken fuel
    match t with
    | .newline =>
      if lines then
        readDocuments fuel
        token fuel lines keywords names
      else return t
    | .word w false =>
      match w.bareText? with
      | none => return t
      | some text =>
        if keywords && reservedWords.contains text then return .reserved text
        else if names then
          let s ← get
          let left := s.rest.length
          let active := s.replaced.filter fun r => r.2 < left
          match s.aliases.lookup text with
          | some value =>
            if active.any (·.1 == text) then return t
            else
              let spaced := if value.endsWith " " || value.endsWith "\t" then some left else none
              set { s with rest := value.toList ++ s.rest, replaced := (text, left) :: active, spaced }
              token fuel lines keywords names
          | none => return t
        else return t
    | _ => return t

def freshToken (fuel : Nat) : Read Token := do
  match fuel with
  | 0 => fail "nesting"
  | fuel + 1 =>
    let one (s : String) : Read Token := return .operator s
    match ← peek with
    | none => return .endOfFile
    | some ' ' | some '\t' => advance; freshToken fuel
    | some '#' =>
      let _ ← takeWhile (· != '\n')
      freshToken fuel
    | some '\n' => advance; return .newline
    | some '&' => advance; if ← skipIf '&' then one "&&" else one "&"
    | some '|' => advance; if ← skipIf '|' then one "||" else one "|"
    | some ';' => advance; if ← skipIf ';' then one ";;" else one ";"
    | some '(' => advance; one "("
    | some ')' => advance; one ")"
    | some _ =>
      let (acc, quoted) ← pieces fuel .bare [] false
      let text := Word.bareText? acc
      match ← peek with
      | some c =>
        if (c == '<' || c == '>') && !quoted && text.any fun t => t.length ≤ 1 && t.all Char.isDigit then
          advance
          let given := (text.bind String.toNat?)
          if c == '>' then
            let n := given.getD 1
            if ← skipIf '>' then return .redirection n .append
            else if ← skipIf '|' then return .redirection n .clobber
            else if ← skipIf '&' then return .redirection n .copyOut
            else return .redirection n .write
          else
            let n := given.getD 0
            if ← skipIf '<' then return .documentMark n (← skipIf '-')
            else if ← skipIf '&' then return .redirection n .copyIn
            else if ← skipIf '>' then return .redirection n .readWrite
            else return .redirection n .read
        else return .word acc.reverse quoted
      | none => return .word acc.reverse quoted

def redirectionOf (fuel : Nat) (t : Token) : Read (Option Redirection) := do
  match fuel with
  | 0 => fail "nesting"
  | fuel + 1 =>
    match t with
    | .redirection n kind =>
      match ← token fuel false false false with
      | .word w _ => return some (n, kind, w)
      | t => unexpected t
    | .documentMark n strip =>
      match ← token fuel false false false with
      | .word w quoted =>
        let s ← get
        let number := s.nextDocument
        set { s with
          nextDocument := number + 1
          waiting := s.waiting ++ [(⟨number, w.plainText, quoted, strip⟩ : Waiting)] }
        return some (n, .document number, [])
      | t => unexpected t
    | _ => return none

def redirections (fuel : Nat) : Read (List Redirection) := do
  match fuel with
  | 0 => fail "nesting"
  | fuel + 1 =>
    let t ← token fuel false true true
    match ← redirectionOf fuel t with
    | some r => return r :: (← redirections fuel)
    | none =>
      pushBack t
      return []

def simple (fuel line : Nat) (first : Bool) (assignments : List (String × Word)) (words : List Word)
    (redirects : List Redirection) : Read Command := do
  match fuel with
  | 0 => fail "nesting"
  | fuel + 1 =>
    let t ← token fuel false false first
    match t with
    | .word w _ =>
      match (if first then w.assignment? else none) with
      | some a => simple fuel line first (a :: assignments) words redirects
      | none => simple fuel line false assignments (w :: words) redirects
    | .operator "(" =>
      match words, assignments, redirects with
      | [name], [], [] =>
        match ← token fuel false false false with
        | .operator ")" =>
          let text := (Word.bareText? name).getD ""
          if !isName text || specialNames.contains text then fail "Bad function name"
          let next ← token fuel true true true
          pushBack next
          return .function (← get).line text (← command fuel)
        | t => unexpected t (some (.operator ")"))
      | _, _, _ =>
        pushBack t
        return .simple line assignments.reverse words.reverse redirects.reverse
    | _ =>
      match ← redirectionOf fuel t with
      | some r => simple fuel line first assignments words (r :: redirects)
      | none =>
        pushBack t
        return .simple line assignments.reverse words.reverse redirects.reverse

def branches (fuel : Nat) : Read Command := do
  match fuel with
  | 0 => fail "nesting"
  | fuel + 1 =>
    let condition ← list fuel 0
    match ← token fuel false false false with
    | .reserved "then" =>
      let body ← list fuel 0
      let t ← token fuel false false false
      match t with
      | .reserved "elif" => return .conditional condition body [← branches fuel]
      | .reserved "else" => return .conditional condition body (← list fuel 0)
      | _ =>
        pushBack t
        return .conditional condition body []
    | t => unexpected t (some (.reserved "then"))

def items (fuel : Nat) : Read (List Word) := do
  match fuel with
  | 0 => fail "nesting"
  | fuel + 1 =>
    match ← token fuel false false false with
    | .word w _ => return w :: (← items fuel)
    | .newline =>
      pushBack .newline
      return []
    | .operator ";" => return []
    | t => unexpected t

def patterns (fuel : Nat) (t : Token) : Read (List Word) := do
  match fuel with
  | 0 => fail "nesting"
  | fuel + 1 =>
    let w : Word := match t with
      | .word w _ => w
      | .reserved s => [.literal false s]
      | _ => []
    match ← token fuel false false false with
    | .operator "|" => return w :: (← patterns fuel (← token fuel false false false))
    | .operator ")" => return [w]
    | t => unexpected t (some (.operator ")"))

def arms (fuel : Nat) : Read (List (List Word × Script)) := do
  match fuel with
  | 0 => fail "nesting"
  | fuel + 1 =>
    match ← token fuel true true false with
    | .reserved "esac" => return []
    | t =>
      let t ← match t with
        | .operator "(" => token fuel false false false
        | _ => pure t
      let patterns ← patterns fuel t
      let body ← list fuel 2
      match ← token fuel true true false with
      | .reserved "esac" => return [(patterns, body)]
      | .operator ";;" => return (patterns, body) :: (← arms fuel)
      | t => unexpected t (some (.operator ";;"))

def closed (fuel line : Nat) (closing : Option Token) (c : Command) : Read Command := do
  match fuel with
  | 0 => fail "nesting"
  | fuel + 1 =>
    match closing with
    | none => pure ()
    | some e =>
      let t ← token fuel false false false
      let isExpected := match t, e with
        | .reserved a, .reserved b => a == b
        | .operator a, .operator b => a == b
        | _, _ => false
      if !isExpected then unexpected t (some e)
    let rs ← redirections fuel
    return if rs.isEmpty then c
      else match c with
        | .subshell line body _ => .subshell line body rs
        | _ => .redirected line c rs

def loopBody (fuel : Nat) (t : Token) : Read Script := do
  match fuel with
  | 0 => fail "nesting"
  | fuel + 1 =>
    match t with
    | .reserved "do" => list fuel 0
    | t => unexpected t (some (.reserved "do"))

def command (fuel : Nat) : Read Command := do
  match fuel with
  | 0 => fail "nesting"
  | fuel + 1 =>
    let t ← token fuel false true true
    let line := (← get).line
    match t with
    | .reserved "if" => closed fuel line (some (.reserved "fi")) (← branches fuel)
    | .reserved "while" =>
      let condition ← list fuel 0
      let body ← loopBody fuel (← token fuel false false false)
      closed fuel line (some (.reserved "done")) (.loop false condition body)
    | .reserved "until" =>
      let condition ← list fuel 0
      let body ← loopBody fuel (← token fuel false false false)
      closed fuel line (some (.reserved "done")) (.loop true condition body)
    | .reserved "for" =>
      match ← token fuel false false false with
      | .word w false =>
        let name := (Word.bareText? w).getD ""
        if !isName name then fail "Bad for loop variable"
        let t ← token fuel true true true
        let words ← match t with
          | .reserved "in" => items fuel
          | .operator ";" => pure [[.parameter true "@"]]
          | t =>
            pushBack t
            pure [[.parameter true "@"]]
        let body ← loopBody fuel (← token fuel true true true)
        closed fuel line (some (.reserved "done")) (.each line name words body)
      | _ => fail "Bad for loop variable"
    | .reserved "case" =>
      match ← token fuel false false false with
      | .word subject _ =>
        match ← token fuel true true true with
        | .reserved "in" => closed fuel line none (.choice line subject (← arms fuel))
        | t => unexpected t (some (.reserved "in"))
      | t => unexpected t (some (.word [] false))
    | .operator "(" =>
      let body ← list fuel 0
      closed fuel line (some (.operator ")")) (.subshell line body [])
    | .reserved "\x7b" => closed fuel line (some (.reserved "\x7d")) (.group (← list fuel 0))
    | .word .. | .redirection .. | .documentMark .. =>
      pushBack t
      simple fuel line true [] [] []
    | t => unexpected t

def piped (fuel : Nat) : Read (List Command) := do
  match fuel with
  | 0 => fail "nesting"
  | fuel + 1 =>
    match ← token fuel false false false with
    | .operator "|" =>
      pushBack (← token fuel true true true)
      let c ← command fuel
      return c :: (← piped fuel)
    | t =>
      pushBack t
      return []

def pipeline (fuel : Nat) (lines : Bool) : Read Command := do
  match fuel with
  | 0 => fail "nesting"
  | fuel + 1 =>
    let t ← token fuel lines true true
    let negated := match t with
      | .reserved "!" => true
      | _ => false
    pushBack (← if negated then token fuel false true true else pure t)
    let first ← command fuel
    let whole : Command := match ← piped fuel with
      | [] => first
      | rest => .pipeline (first :: rest)
    return if negated then .negated whole else whole

def joinedTo (fuel : Nat) (left : Command) : Read Command := do
  match fuel with
  | 0 => fail "nesting"
  | fuel + 1 =>
    match ← token fuel false false false with
    | .operator "&&" => joinedTo fuel (.joined .both left (← pipeline fuel true))
    | .operator "||" => joinedTo fuel (.joined .either left (← pipeline fuel true))
    | t =>
      pushBack t
      return left

/-- Commands one after the other. At `level` 1 they end with the line; at 0 they must not be missing; at 2 they end
at a word or parenthesis that closes what is around them. -/
def list (fuel : Nat) (level : Nat) : Read Script := do
  match fuel with
  | 0 => fail "nesting"
  | fuel + 1 =>
    let t ← token fuel (level % 2 == 0) true true
    match t with
    | .newline =>
      readDocuments fuel
      return []
    | .endOfFile =>
      readDocuments fuel
      pushBack .endOfFile
      return []
    | _ =>
      pushBack t
      if level == 2 && t.endsList then return []
      let level := if level == 0 then 2 else if level == 1 then 3 else level
      let c ← joinedTo fuel (← pipeline fuel false)
      let t ← token fuel false false false
      let c := match t with
        | .operator "&" => .background c
        | _ => c
      match t with
      | .endOfFile =>
        readDocuments fuel
        pushBack .endOfFile
        return [c]
      | .newline =>
        pushBack t
        return c :: (← list fuel level)
      | .operator "&" | .operator ";" => return c :: (← list fuel level)
      | t =>
        if level == 3 then unexpected t
        pushBack t
        return [c]

end

/-- A complete line of a script, with the texts behind it; `none` at the end of the script. -/
def completeLine (s : Source) : Except ReadError (Option (Script × Source)) :=
  let s := { s with pushed := none, documents := [], waiting := [] }
  let isBlank (cs : List Char) : Bool := cs.all fun c => c == ' ' || c == '\t' || c == '\n'
  if isBlank s.rest then .ok none
  else do
    let (body, s) ← (list (16 * s.rest.length + 64) 1).run s
    return some (body, s)

def readText (text : String) : Option Word :=
  match (pieces (4 * text.length + 16) .document [] false).run { rest := text.toList } with
  | .ok ((w, _), _) => some w.reverse
  | .error _ => none

end Lexicon.Shell
