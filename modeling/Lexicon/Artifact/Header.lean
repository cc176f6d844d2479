import Lexicon.Table.Compiled
import Lexicon.Artifact.Sink

namespace Lexicon.Artifact

def banner : String := "\n// This file was auto-generated by 'tokengen'\n\n"

inductive HeaderLine where
  | constant (name : String) (width : Nat) (value : String)
  | verbatim (text : String)
  deriving DecidableEq, Repr

def padEnd (width : Nat) (s : String) : String :=
  s ++ String.ofList (List.replicate (width - s.length) ' ')

def widestColumn : Nat := 65535

/-- A line can be written: if its name is filled up, then to a column within reach. -/
def HeaderLine.Fits : HeaderLine → Prop
  | constant _ width _ => width ≤ widestColumn
  | verbatim _ => True

instance : DecidablePred HeaderLine.Fits
  | .constant _ width _ => inferInstanceAs (Decidable (width ≤ widestColumn))
  | .verbatim _ => inferInstanceAs (Decidable True)

def HeaderLine.text : HeaderLine → String
  | constant name width value => "#define " ++ padEnd width name ++ " " ++ value ++ "\n"
  | verbatim text => text ++ "\n"

/-- Writes a line. A column out of reach halts before anything of the line is written. -/
def HeaderLine.write (l : HeaderLine) : Printing Unit := if l.Fits then emit l.text else throw .halted

namespace Header

def guard : String := "_ISAAC_TOKEN_DATA_H"

/-- Constants of pre-lexed packages, kept for code that still names them. They do not depend on the table. -/
def legacyLines : List String := [
  "",
  "// DEPRECATED: Pre-lexed files will probably be removed in the future.",
  "// Used in place of common sequences in packages.",
  "// Not recognized by parser.",
  "#define TOKEN_PKG_MIN         TOKEN_PKG_WBOOL",
  "#define TOKEN_PKG_WBOOL       0x0000000D0",
  "#define TOKEN_PKG_WBYTE       0x0000000D1",
  "#define TOKEN_PKG_WDOUBLE     0x0000000D2",
  "#define TOKEN_PKG_WFLOAT      0x0000000D3",
  "#define TOKEN_PKG_WINT        0x0000000D4",
  "#define TOKEN_PKG_WLONG       0x0000000D5",
  "#define TOKEN_PKG_WSHORT      0x0000000D6",
  "#define TOKEN_PKG_WUBYTE      0x0000000D7",
  "#define TOKEN_PKG_WUINT       0x0000000D8",
  "#define TOKEN_PKG_WULONG      0x0000000D9",
  "#define TOKEN_PKG_WUSHORT     0x0000000DA",
  "#define TOKEN_PKG_WUSIZE      0x0000000DB",
  "#define TOKEN_PKG_MAX         TOKEN_PKG_WUSIZE"]

def legacyBlock : String := String.join (legacyLines.map (· ++ "\n"))

/-- The column up to which the constants of entries and aliases are filled. Aliases do not widen it. -/
def column (c : Compiled) : Nat :=
  (c.entries.map fun e => (Text.utf8 e.definition.name).length).foldl max 0 + constantStem.length

def stampLine (stamp : UInt64) : HeaderLine :=
  .constant "TOKEN_ITERATION_VERSION" 0 ("0x" ++ Text.hex 8 stamp.toNat)

def entryLines (c : Compiled) : List HeaderLine :=
  let width := column c
  c.entries.map fun e => .constant e.definition.constant width e.id.text

def aliasLines (c : Compiled) : List HeaderLine :=
  let width := column c
  c.aliases.map fun a => .constant a.source.constant width a.id.text

def payloadConstant (p : Payload) : String := "TOKEN_EXTRA_DATA_FORMAT_" ++ p.constantSuffix

def payloadLines : List HeaderLine :=
  let width := (Payload.all.map fun p => (payloadConstant p).length).foldl max 0
  Payload.all.map fun p => .constant (payloadConstant p) width ("0x" ++ Text.hex 8 p.code)

def leadingLines (c : Compiled) (stamp : UInt64) : List HeaderLine :=
  [.verbatim ("#ifndef " ++ guard), .verbatim ("#define " ++ guard), .verbatim "",
    stampLine stamp, .verbatim ""]
  ++ entryLines c ++ aliasLines c
  ++ [.verbatim "",
    .constant "MAX_LEX_TOKEN" 0 ("0x" ++ Text.hex 8 c.maxToken.toNat),
    .constant "BEGINNING_OF_KEYWORD_TOKENS" 0 c.firstKeyword.text,
    .verbatim ""]
  ++ payloadLines
  ++ [.verbatim "",
    .verbatim "extern const char *global_token_name_table[];",
    .verbatim "extern const char global_token_extra_format_table[];",
    .verbatim "",
    .verbatim "extern const char *global_token_keywords_list[];",
    .verbatim "extern unsigned long long global_token_keywords_list_length;"]

def closingLines : List HeaderLine := [.verbatim "", .verbatim ("#endif // " ++ guard)]

def write (c : Compiled) (stamp : UInt64) : Printing Unit := do
  emit banner
  (leadingLines c stamp).forM HeaderLine.write
  emit legacyBlock
  closingLines.forM HeaderLine.write

/-- The header in memory. There is none if a line halts. -/
def text? (c : Compiled) (stamp : UInt64) : Option String := (write c stamp).text?

end Header

end Lexicon.Artifact
