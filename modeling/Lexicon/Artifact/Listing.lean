import Lexicon.Artifact.Pair
import Lexicon.Json.Printer

namespace Lexicon.Artifact.Listing

open Json (Value)

def number (n : Nat) : Value := .integer n

def token (e : Entry) : Value := .object [
  ("id", number e.id.position),
  ("short_name", .text e.definition.name),
  ("constant", .text e.definition.constant),
  ("display_name", .text e.definition.displayName),
  ("category", .text e.definition.category.label),
  ("payload", .text e.definition.payload.label),
  ("payload_code", .text (String.singleton e.definition.payload.encode))]

def sourceAlias (a : AliasEntry) : Value := .object [
  ("short_name", .text a.source.name),
  ("constant", .text a.source.constant),
  ("display_name", .text a.source.displayName),
  ("target", .text a.source.target),
  ("id", number a.id.position)]

/-- The listing. There is none if the keyword boundary lies past the end of the table. -/
def value? (c : Compiled) : Option Value :=
  c.keywords?.map fun keywords => .object [
    ("token_count", number c.size),
    ("max_token", number c.maxToken.toNat),
    ("first_keyword", number c.firstKeyword.position),
    ("tokens", .array (c.entries.map token)),
    ("aliases", .array (c.aliases.map sourceAlias)),
    ("keywords", .array (keywords.map fun e => .text e.definition.name))]

def text? (c : Compiled) : Option String := (value? c).map fun v => v.print ++ "\n"

end Lexicon.Artifact.Listing
