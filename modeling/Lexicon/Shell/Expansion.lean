import Lexicon.Shell.Arithmetic
import Lexicon.Shell.State

namespace Lexicon.Shell

open Run

inductive Purpose where
  | fields
  | text
  | value
  deriving DecidableEq, Repr

/-- The home directory behind a tilde: that of a user, or the one that is set. -/
def Session.home? (s : Session) (user : String) : Option String :=
  if user.isEmpty then s.valueOf? "HOME" else if user = "root" then some "/root" else none

/-- Puts a home directory in the place of a tilde at the beginning of a text; in values also behind colons. What stands
behind the tilde must end in the text, or with the word. -/
def Session.expandTildes (s : Session) (inValue atStart atEnd : Bool) (text : String) : List Stretch :=
  go (text.length + 1) atStart text.toList
where
  go (fuel : Nat) (atStart : Bool) (cs : List Char) : List Stretch :=
    match fuel, cs with
    | 0, _ | _, [] => []
    | fuel + 1, c :: rest =>
      let ends (c : Char) : Bool := c == '/' || (inValue && c == ':')
      let user := rest.takeWhile (!ends ·)
      let closed := atEnd || user.length < rest.length
      match (if atStart && c == '~' && closed then s.home? (String.ofList user) else none) with
      | some home => Stretch.whole true home :: go fuel false (rest.drop user.length)
      | none =>
        let plain := (c :: rest).takeWhile fun c => !(inValue && c == ':')
        let colon := ((c :: rest).drop plain.length).take 1
        Stretch.whole false (String.ofList (plain ++ colon)) :: go fuel true ((c :: rest).drop (plain.length + 1))

/-- Text that has been put in the place of something: it is parted, unless it is quoted or has to stay one text. -/
def inserted (purpose : Purpose) (quoted : Bool) (text : String) : List Stretch :=
  if quoted || purpose != .fields then [Stretch.whole quoted text]
  else [⟨.atSeparators, text.toList.map (.character · false)⟩]

def spaced (quoted : Bool) (arguments : List String) : List Glyph :=
  (arguments.map fun a => a.toList.map (Glyph.character · quoted)).intersperse [Glyph.gap] |>.flatten

def staysApart (purpose : Purpose) (quoted : Bool) (name : String) : Bool :=
  purpose == .fields && (name == "@" || (name == "*" && !quoted))

def insertedArguments (quoted : Bool) (arguments : List String) : List Stretch :=
  if quoted && arguments.isEmpty then [] else [⟨if quoted then .atGaps else .atSeparators, spaced quoted arguments⟩]

/-- A parameter with its value. One that is not set leaves nothing, not even an empty stretch. -/
def Session.insertParameter (s : Session) (purpose : Purpose) (quoted : Bool) (name : String) : List Stretch :=
  if staysApart purpose quoted name then insertedArguments quoted s.arguments
  else ((s.parameter? name).map (inserted purpose quoted)).getD []

/-- Whether there is nothing to see of a parameter that is set. Between arguments that stay apart there is something. -/
def Session.isBlank (s : Session) (purpose : Purpose) (quoted : Bool) (name value : String) : Bool :=
  value.isEmpty && !(staysApart purpose quoted name && 1 < s.arguments.length)

def requireParameter (name : String) : Run Unit := do
  let s ← get
  if s.hasOption 'u' && (s.parameter? name).isNone && name != "@" && name != "*" then
    fail (name ++ ": parameter not set")

def evaluate (text : String) : Run String := do
  let s ← get
  let around : Arithmetic.Surroundings := {
    value := fun name => (s.valueOf? name).getD ""
    isReadOnly := fun name => (s.bindings.lookup name).any (·.readOnly) }
  match Arithmetic.eval around text with
  | .error fault => fail (fault.message text)
  | .ok (n, changes) =>
    changes.forM fun (name, value) => setVariable name (toString value.toInt)
    return toString n.toInt

section

variable (substitute : Script → Run String)

mutual

/-- Expands a piece of a word. `inner` tells that text which is not quoted is parted, too. -/
def expandPiece (purpose : Purpose) (inner atStart atEnd : Bool) : Piece → Run (List Stretch)
  | .literal quoted text => do
    if quoted then return [if text.isEmpty then ⟨.nowhere, [.mark]⟩ else Stretch.whole true text]
    else
      let stretches := (← get).toSession.expandTildes (purpose == .value) atStart atEnd text
      return if inner && purpose == .fields then stretches.map fun s => { s with parting := .atSeparators } else stretches
  | .parameter quoted name => do
    requireParameter name
    return (← get).toSession.insertParameter purpose quoted name
  | .length quoted name => do
    requireParameter name
    return inserted purpose quoted (toString (((← get).toSession.parameter? name).getD "").length)
  | .fallback quoted name kind orEmpty word => do
    let s ← get
    let value := s.toSession.parameter? name
    let missing := value.all fun v => orEmpty && s.toSession.isBlank purpose quoted name v
    match kind, missing with
    | .useDefault, true | .alternative, false => expandPieces purpose true true word
    | .assign, true =>
      let text := textOf (lettersOf (← expandPieces .value true true word))
      if !isName name then fail (name ++ ": bad variable name")
      setVariable name text
      return inserted purpose quoted text
    | .complain, true =>
      let text := textOf (lettersOf (← expandPieces .text true true word))
      fail (name ++ ": " ++ (if !word.isEmpty then text
        else if orEmpty then "parameter not set or null" else "parameter not set"))
    | .alternative, true => return inserted purpose quoted ""
    | _, false => return s.toSession.insertParameter purpose quoted name
  | .trimmed quoted name atEnd longest pattern => do
    requireParameter name
    let s ← get
    match s.toSession.parameter? name with
    | some value =>
      let letters := lettersOf (← expandPieces .text false true pattern)
      if staysApart purpose quoted name then
        return insertedArguments quoted (trimArguments s.arguments atEnd longest letters)
      return inserted purpose quoted ((trimmed? value atEnd longest letters).getD value)
    | none => return []
  | .arithmetic quoted expression => do
    let text := textOf (lettersOf (← expandPieces .text false false expression))
    return inserted purpose quoted (← evaluate text)
  | .substitution quoted body => do
    let output := (← substitute body).toList.filter (· != '\x00')
    return inserted purpose quoted (String.ofList (output.reverse.dropWhile (· == '\n')).reverse)
  | .malformed => fail "Bad substitution"

def expandPieces (purpose : Purpose) (inner atStart : Bool) : List Piece → Run (List Stretch)
  | [] => return []
  | piece :: rest => do
    let front ← expandPiece purpose inner atStart rest.isEmpty piece
    let isColon := purpose == .value && match piece with
      | .literal false text => text.toList.getLast? == some ':'
      | _ => false
    return front ++ (← expandPieces purpose inner isColon rest)

end

def expandLetters (purpose : Purpose) (word : Word) : Run (List Letter) :=
  return lettersOf (← expandPieces substitute purpose false true word)

def expandText (purpose : Purpose) (word : Word) : Run String :=
  return textOf (← expandLetters substitute purpose word)

def expandFields (word : Word) : Run (List String) := do
  let stretches ← expandPieces substitute .fields false true word
  let s ← get
  let fields := Fields.ofStretches s.separators stretches
  return if s.hasOption 'f' then fields.map textOf else fields.flatMap (expandNames s.tree s.here)

def expandAll (words : List Word) : Run (List String) :=
  words.foldlM (fun fields word => return fields ++ (← expandFields substitute word)) []

def declares (fields : List String) : Bool :=
  match fields.dropWhile fun f => f == "command" || f == "-p" with
  | name :: _ => ["export", "readonly", "local"].contains name
  | [] => false

/-- The fields of a command. Arguments that assign stay whole, where commands take them. -/
def expandCommand (words : List Word) : Run (List String) :=
  words.foldlM (fun fields word => do
    match (if declares fields then word.assignment? else none) with
    | some (name, value) => return fields ++ [name ++ "=" ++ (← expandText substitute .value value)]
    | none => return fields ++ (← expandFields substitute word)) []

def fitsAny (text : String) : List Word → Run Bool
  | [] => return false
  | pattern :: rest => do
    if Glob.accepts (← expandLetters substitute .text pattern) text then return true else fitsAny text rest

end

end Lexicon.Shell
