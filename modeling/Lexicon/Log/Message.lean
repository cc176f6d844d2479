import Lexicon.Text.Replace

namespace Lexicon.Log

inductive Level where
  | error
  | warn
  | info
  | debug
  | trace
  deriving DecidableEq, Repr

namespace Level

def all : List Level := [error, warn, info, debug, trace]

def label : Level → String
  | error => "ERROR"
  | warn => "WARN"
  | info => "INFO"
  | debug => "DEBUG"
  | trace => "TRACE"

def rank : Level → Nat
  | error => 1
  | warn => 2
  | info => 3
  | debug => 4
  | trace => 5

end Level

structure Message where
  level : Level
  origin : String
  text : String
  deriving DecidableEq, Repr

/-- A message as it is shown. All levels take up the same space, and further lines of the text stand four places to
the right. -/
def Message.line (m : Message) : String :=
  let padding := String.ofList (List.replicate (5 - m.level.label.length) ' ')
  "[" ++ m.level.label ++ padding ++ " " ++ m.origin ++ "] " ++ Text.replace "\n" "\n    " m.text ++ "\n"

end Lexicon.Log
