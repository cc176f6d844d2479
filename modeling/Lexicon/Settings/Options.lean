import Lexicon.Settings.Variables

namespace Lexicon.Settings

/-- Where a generation run writes, and its stamp. Without a stamp the current time is used, and without a path no
listing is written. -/
structure Generation where
  header : String := "include/TOKEN/token_data.h"
  source : String := "src/TOKEN/token_data.c"
  listing : Option String := none
  stamp : Option UInt64 := none
  deriving DecidableEq, Repr

inductive OptionError where
  | surplus (argument : String)
  | variable (e : VariableError)
  deriving DecidableEq, Repr

def OptionError.message : OptionError → String
  | surplus argument => "unexpected argument " ++ Text.quoted argument ++ "; usage: tokengen [HEADER_OUT] [SOURCE_OUT]"
  | .variable e => e.message

namespace Generation

/-- The options that arguments give: two paths at most. -/
def ofArguments : List String → Except OptionError Generation
  | [] => .ok {}
  | [header] => .ok { header }
  | [header, source] => .ok { header, source }
  | _ :: _ :: argument :: _ => .error (.surplus argument)

def ofInvocation (arguments : List String) (v : Variables) : Except OptionError Generation := do
  let options ← ofArguments arguments
  match v.read (Bounds.unsigned 64).read "TOKENGEN_STAMP" with
  | .error e => .error (.variable e)
  | .ok stamp =>
    return { options with
      listing := v.value? "TOKENGEN_JSON"
      stamp := stamp.map fun n => UInt64.ofNat n.toNat }

end Generation

structure Conformance where
  parallel : Bool := false
  color : Bool := true
  deriving DecidableEq, Repr

def Conformance.ofVariables (v : Variables) : Conformance where
  parallel := v.isOn "CONFORM_PARALLEL" false
  color := v.isOn "CONFORM_COLOR" true

structure Fuzzing where
  iterations : Nat := 200
  seed : Nat := 42
  length : Nat := 400
  aliases : Nat := 8
  deriving DecidableEq, Repr

/-- The options that variables give. The first one that cannot be read decides. -/
def Fuzzing.ofVariables (v : Variables) : Except VariableError Fuzzing := do
  let number (name : String) (default : Nat) : Except VariableError Nat := do
    return (← v.readOr (Bounds.unsigned 64).read name default).toNat
  let blank : Fuzzing := {}
  let iterations ← number "FUZZ_ITERS" blank.iterations
  let seed ← number "FUZZ_SEED" blank.seed
  let length ← number "FUZZ_LEN" blank.length
  let aliases ← number "FUZZ_ALIASES" blank.aliases
  return ⟨iterations, seed, length, aliases⟩

end Lexicon.Settings
