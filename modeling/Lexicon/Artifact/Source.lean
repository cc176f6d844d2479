import Lexicon.Artifact.Header
import Lexicon.Artifact.Literal
import Lexicon.Bounded

namespace Lexicon.Artifact.Source

def nameBodies (c : Compiled) : List String :=
  c.entries.map fun e => Literal.escape e.definition.displayName

def longest (bodies : List String) : Nat := (bodies.map fun body => (Text.utf8 body).length).foldl max 0

def nameRow (blanks : Nat) (body : String) (id : TokenId) : String :=
  "    \"" ++ body ++ "\"," ++ String.ofList (List.replicate blanks ' ') ++ "// " ++ id.text ++ "\n"

/-- One row, its comment moved behind the longest name. There is none if its own name is longer. -/
def nameRow? (longest : Nat) (body : String) (id : TokenId) : Option String :=
  (Bounded.minus? longest (Text.utf8 body).length).map fun gap => nameRow (gap + 1) body id

def writeNames (c : Compiled) : Printing Unit := do
  let bodies := nameBodies c
  let longest := longest bodies
  emit "const char *global_token_name_table[] = \x7b\n"
  (c.entries.zip bodies).forM fun row => do emit (← orHalt (nameRow? longest row.2 row.1.id))
  emit "\x7d;\n"
  emit "\n"

def payloadCodes (c : Compiled) : String :=
  String.ofList (c.entries.map fun e => e.definition.payload.encode)

def writePayloads (c : Compiled) : Printing Unit := do
  emit ("const char global_token_extra_format_table[] = \"" ++ payloadCodes c ++ "\";\n")
  emit "\n"

/-- Writes the keywords and their number. Where the keyword boundary lies past the end of the table, this halts behind
the first line. -/
def writeKeywords (c : Compiled) : Printing Unit := do
  emit "const char *global_token_keywords_list[] = \x7b\n"
  (← orHalt c.keywords?).forM fun e => emit ("    \"" ++ e.definition.name ++ "\",\n")
  emit "\x7d;\n"
  emit "\n"
  let keywords ← orHalt c.keywords?
  emit ("unsigned long long global_token_keywords_list_length = " ++ toString keywords.length ++ ";\n")

def write (c : Compiled) : Printing Unit := do
  emit banner
  writeNames c
  writePayloads c
  writeKeywords c

/-- The source artifact in memory. There is none if writing halts. -/
def text? (c : Compiled) : Option String := (write c).text?

end Lexicon.Artifact.Source
