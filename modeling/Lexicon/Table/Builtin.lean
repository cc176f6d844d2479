import Lexicon.Table.Basic

/-!
The table that the lexer is built with. To add or remove a token, edit the lists here; identifiers, the keyword
range and both artifacts follow from them. Keywords may be listed in any order.
-/
namespace Lexicon

namespace Builtin

def row (name : String) (category : Category) (payload : Payload) : Definition :=
  ⟨name, category, payload, none⟩

def named (name display : String) : Definition := ⟨name, .operator, .idOnly, some display⟩

def tokens : List Definition := [
  row "none" .plain .idOnly,
  row "word" .word .cString,
  row "string" .literal .lenString,
  row "cstring" .literal .cString,
  row "add" .operator .idOnly,
  row "subtract" .operator .idOnly,
  row "multiply" .operator .idOnly,
  row "divide" .operator .idOnly,
  row "assign" .operator .idOnly,
  row "equals" .operator .idOnly,
  row "notequals" .operator .idOnly,
  row "lessthan" .operator .idOnly,
  row "greaterthan" .operator .idOnly,
  row "lessthaneq" .operator .idOnly,
  row "greaterthaneq" .operator .idOnly,
  row "not" .operator .idOnly,
  row "open" .operator .idOnly,
  row "close" .operator .idOnly,
  row "begin" .operator .idOnly,
  row "end" .operator .idOnly,
  row "newline" .operator .idOnly,
  row "byte" .literal .memory,
  row "ubyte" .literal .memory,
  row "short" .literal .memory,
  row "ushort" .literal .memory,
  row "int" .literal .memory,
  row "uint" .literal .memory,
  row "long" .literal .memory,
  row "ulong" .literal .memory,
  row "usize" .literal .memory,
  row "float" .literal .memory,
  row "double" .literal .memory,
  row "member" .operator .idOnly,
  row "address" .operator .idOnly,
  row "next" .operator .idOnly,
  row "bracket_open" .operator .idOnly,
  row "bracket_close" .operator .idOnly,
  row "modulus" .operator .idOnly,
  row "generic_int" .literal .idOnly,
  row "generic_float" .literal .idOnly,
  row "add_assign" .operator .idOnly,
  row "subtract_assign" .operator .idOnly,
  row "multiply_assign" .operator .idOnly,
  row "divide_assign" .operator .idOnly,
  row "modulus_assign" .operator .idOnly,
  named "bit_and_assign" "bitwise and assign",
  named "bit_or_assign" "bitwise or assign",
  named "bit_xor_assign" "bitwise xor assign",
  named "bit_lshift_assign" "bitwise left shift assign",
  named "bit_rshift_assign" "bitwise right shift assign",
  named "bit_lgc_lshift_assign" "bitwise logical left shift assign",
  named "bit_lgc_rshift_assign" "bitwise logical right shift assign",
  row "ellipsis" .operator .idOnly,
  named "uberand" "uber and",
  named "uberor" "uber or",
  named "terminate_join" "terminate join",
  row "colon" .operator .idOnly,
  named "bit_or" "bitwise or",
  named "bit_xor" "bitwise xor",
  named "bit_lshift" "bitwise left shift",
  named "bit_rshift" "bitwise right shift",
  row "bit_complement" .operator .idOnly,
  named "bit_lgc_lshift" "bitwise logical left shift",
  named "bit_lgc_rshift" "bitwise logical right shift",
  row "associate" .operator .idOnly,
  row "meta" .preprocessor .cString,
  row "polymorph" .polymorph .cString,
  row "maybe" .operator .idOnly,
  row "increment" .operator .idOnly,
  row "decrement" .operator .idOnly,
  row "toggle" .operator .idOnly,
  named "strong_arrow" "strong arrow",
  row "range" .operator .idOnly,
  row "gives" .operator .idOnly,
  row "polycount" .literal .cString]

def keywords : List String := [
    "POD", "alias", "alignof", "and", "as", "at", "break", "case", "cast", "class", "const", "constructor",
    "continue", "def", "default", "defer", "define", "delete", "each", "else", "embed", "enum", "exhaustive",
    "extends", "external", "fallthrough", "false", "for", "foreign", "func", "funcptr", "global", "if", "implicit",
    "import", "in", "inout", "llvm_asm", "namespace", "new", "null", "or", "out", "override", "packed", "pragma",
    "private", "public", "record", "repeat", "return", "sizeof", "static", "stdcall", "struct", "switch",
    "thread_local", "true", "typeinfo", "typenameof", "undef", "union", "unless", "until", "using", "va_arg",
    "va_copy", "va_end", "va_start", "verbatim", "virtual", "while"]

/-- Names that share an identifier with a token. -/
def aliases : List Alias := [⟨"bit_and", "address", some "bitwise and"⟩]

end Builtin

def Table.builtin : Table where
  definitions := Builtin.tokens ++ Builtin.keywords.map fun name => ⟨name, .keyword, .idOnly, none⟩
  aliases := Builtin.aliases

end Lexicon
