import Std.Data.HashSet
import Lexicon.Bounded
import Lexicon.Stop
import Lexicon.Table.Compiled

/-!
An independent check of a compiled table against the table it came from. It looks at the result only and shares
no code with the compilation, and it has an answer for every compiled table, also for one edited by hand.
-/
namespace Lexicon

inductive Violation where
  | wrongCount (compiled definitions : Nat)
  | wrongId (position : Nat) (name : String) (id : TokenId)
  | lossyPayload (name : String)
  | boundaryPastEnd (boundary size : Nat)
  | wrongKeywordCount (boundary found expected : Nat)
  | keywordBeforeBoundary (name : String) (id : TokenId)
  | strangerInKeywords (name : String) (id : TokenId)
  | keywordsOutOfOrder (first second : String)
  | reordered
  | repeated (name : String)
  | wrongAliasCount (resolved declared : Nat)
  | aliasPastEnd (name : String)
  | wrongAliasTarget (name found expected : String)
  deriving DecidableEq, Repr

def Violation.message : Violation → String
  | wrongCount compiled definitions =>
    "compiled " ++ toString compiled ++ " tokens from " ++ toString definitions ++ " definitions"
  | wrongId position name id =>
    "entry " ++ toString position ++ " ('" ++ name ++ "') has id " ++ id.text
  | lossyPayload name => "payload of '" ++ name ++ "' does not survive its encoding"
  | boundaryPastEnd boundary size =>
    "keyword boundary " ++ toString boundary ++ " past end of table (" ++ toString size ++ ")"
  | wrongKeywordCount boundary found expected =>
    "boundary " ++ toString boundary ++ " leaves " ++ toString found ++ " keywords, table has " ++ toString expected
  | keywordBeforeBoundary name id => "keyword '" ++ name ++ "' sits before the boundary at " ++ id.text
  | strangerInKeywords name id => "'" ++ name ++ "' sits in the keyword block at " ++ id.text
  | keywordsOutOfOrder first second => "keywords out of order: '" ++ first ++ "' before '" ++ second ++ "'"
  | reordered => "non-keyword tokens were reordered"
  | repeated name => "'" ++ name ++ "' appears twice"
  | wrongAliasCount resolved declared =>
    "resolved " ++ toString resolved ++ " aliases out of " ++ toString declared
  | aliasPastEnd name => "alias '" ++ name ++ "' points past the table"
  | wrongAliasTarget name found expected =>
    "alias '" ++ name ++ "' resolved to '" ++ found ++ "', expected '" ++ expected ++ "'"

namespace Audit

abbrev Verdict := Except (Stop Violation) Unit

def require (holds : Bool) (v : Violation) : Verdict := if holds then .ok () else .error (.failed v)

def refuse (entries : List Entry) (isWrong : Entry → Bool) (v : Entry → Violation) : Verdict :=
  match entries.find? isWrong with
  | some e => .error (.failed (v e))
  | none => .ok ()

/-- One entry and its position: the identifier is the position, and the payload can be read back. -/
def checkEntry (e : Entry) (position : Nat) : Verdict := do
  require (e.id == .ofPosition position) (.wrongId position e.definition.name e.id)
  require (Payload.decode? e.definition.payload.encode == some e.definition.payload)
    (.lossyPayload e.definition.name)

def checkAscending : List Entry → Verdict
  | a :: b :: rest => do
    require (decide (Text.utf8 a.definition.name < Text.utf8 b.definition.name))
      (.keywordsOutOfOrder a.definition.name b.definition.name)
    checkAscending (b :: rest)
  | _ => .ok ()

def checkDistinct (seen : Std.HashSet String) : List Entry → Verdict
  | [] => .ok ()
  | e :: rest =>
    if seen.contains e.definition.name then .error (.failed (.repeated e.definition.name))
    else checkDistinct (seen.insert e.definition.name) rest

def checkAlias (entries : List Entry) (a : AliasEntry) : Verdict :=
  match entries[a.id.position]? with
  | none => .error (.failed (.aliasPastEnd a.source.name))
  | some e =>
    require (e.definition.name == a.source.target)
      (.wrongAliasTarget a.source.name e.definition.name a.source.target)

end Audit

open Audit Bounded in
/-- Compares a compiled table with its source and reports the first violation. Every difference and every part of the
list is taken where it is needed, and halts if there is none. -/
def Compiled.audit (t : Table) (c : Compiled) : Verdict := do
  let boundary := c.firstKeyword.position
  require (c.size == t.definitions.length) (.wrongCount c.size t.definitions.length)
  c.entries.zipIdx.forM fun (e, i) => checkEntry e i
  require (boundary ≤ c.size) (.boundaryPastEnd boundary c.size)
  let found ← orHalt (minus? c.size boundary)
  require (found == t.keywordCount) (.wrongKeywordCount boundary found t.keywordCount)
  let front ← orHalt (front? c.entries boundary)
  refuse front (·.definition.isKeyword) fun e => .keywordBeforeBoundary e.definition.name e.id
  let keywords ← orHalt c.keywords?
  refuse keywords (!·.definition.isKeyword) fun e => .strangerInKeywords e.definition.name e.id
  let ascending ← orHalt c.keywords?
  checkAscending ascending
  let emitted ← orHalt (front? c.entries boundary)
  require (t.nonKeywords.map (·.name) == emitted.map (·.definition.name)) .reordered
  checkDistinct ∅ c.entries
  require (c.aliases.length == t.aliases.length) (.wrongAliasCount c.aliases.length t.aliases.length)
  c.aliases.forM (checkAlias c.entries)

end Lexicon
