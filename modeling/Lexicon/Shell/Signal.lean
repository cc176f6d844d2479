namespace Lexicon.Shell

inductive Signal.Effect where
  | ends
  | nothing
  | stops
  deriving DecidableEq, Repr

structure Signal where
  number : Nat
  name : String
  effect : Signal.Effect
  report : String
  deriving DecidableEq, Repr

namespace Signal

def named : List Signal := [
  ⟨1, "HUP", .ends, "Hangup"⟩, ⟨2, "INT", .ends, "Interrupt"⟩, ⟨3, "QUIT", .ends, "Quit"⟩,
  ⟨4, "ILL", .ends, "Illegal instruction"⟩, ⟨5, "TRAP", .ends, "Trace/breakpoint trap"⟩,
  ⟨6, "ABRT", .ends, "Aborted"⟩, ⟨7, "BUS", .ends, "Bus error"⟩, ⟨8, "FPE", .ends, "Floating point exception"⟩,
  ⟨9, "KILL", .ends, "Killed"⟩, ⟨10, "USR1", .ends, "User defined signal 1"⟩,
  ⟨11, "SEGV", .ends, "Segmentation fault"⟩, ⟨12, "USR2", .ends, "User defined signal 2"⟩,
  ⟨13, "PIPE", .ends, "Broken pipe"⟩, ⟨14, "ALRM", .ends, "Alarm clock"⟩, ⟨15, "TERM", .ends, "Terminated"⟩,
  ⟨16, "16", .ends, "Stack fault"⟩, ⟨17, "CHLD", .nothing, "Child exited"⟩, ⟨18, "CONT", .nothing, "Continued"⟩,
  ⟨19, "STOP", .stops, "Stopped (signal)"⟩, ⟨20, "TSTP", .stops, "Stopped"⟩,
  ⟨21, "TTIN", .stops, "Stopped (tty input)"⟩, ⟨22, "TTOU", .stops, "Stopped (tty output)"⟩,
  ⟨23, "URG", .nothing, "Urgent I/O condition"⟩, ⟨24, "XCPU", .ends, "CPU time limit exceeded"⟩,
  ⟨25, "XFSZ", .ends, "File size limit exceeded"⟩, ⟨26, "VTALRM", .ends, "Virtual timer expired"⟩,
  ⟨27, "PROF", .ends, "Profiling timer expired"⟩, ⟨28, "WINCH", .nothing, "Window changed"⟩,
  ⟨29, "IO", .ends, "I/O possible"⟩, ⟨30, "PWR", .ends, "Power failure"⟩, ⟨31, "SYS", .ends, "Bad system call"⟩]

/-- The first and the last signal that programs are free to use. -/
def firstFree : Nat := 34

def lastFree : Nat := 64

/-- The name of a signal without one of its own: counted from the nearer end. -/
def freeName (n : Nat) : String :=
  if n < firstFree then toString n
  else if n = firstFree then "RTMIN"
  else if n = lastFree then "RTMAX"
  else if n ≤ firstFree + 15 then "RTMIN+" ++ toString (n - firstFree)
  else "RTMAX-" ++ toString (lastFree - n)

def ofNumber? (n : Nat) : Option Signal :=
  match named.find? (·.number == n) with
  | some s => some s
  | none =>
    if n = 0 || lastFree < n then none
    else
      let report := if n < firstFree then "Unknown signal " ++ toString n
        else "Real-time signal " ++ toString (n - firstFree)
      some ⟨n, freeName n, .ends, report⟩

def all : List Signal := (List.range (lastFree + 1)).filterMap ofNumber?

def exitNumber : Nat := 0

def nameOf (n : Nat) : String := if n = exitNumber then "EXIT" else ((ofNumber? n).map (·.name)).getD (toString n)

/-- The number that a text names: a number, or a name in letters of either case, at least `least`. -/
def numberOf? (least : Nat) (s : String) : Option Nat :=
  if !s.isEmpty && s.toList.all Char.isDigit then s.toNat?.filter (· ≤ lastFree)
  else (List.range (lastFree + 1)).find? fun n => least ≤ n && nameOf n == s.map Char.toUpper

/-- What a shell says about a process that a signal ended. About interrupted processes and those without a reader it
says nothing. -/
def reportOf (n : Nat) : String :=
  if n = 2 || n = 13 then "" else ((ofNumber? n).map (·.report)).getD ""

def statusOf (n : Nat) : Nat := 128 + n

end Signal

end Lexicon.Shell
