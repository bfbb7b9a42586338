import FlakeImage.Timeline.Work

/-! # Programs

How a program that has been started ends: with a status, by a signal, or not at all. -/

namespace FlakeImage

/-- How a program ended: with a status, or by a signal, which may have left a picture of its memory. -/
inductive ExitStatus
  | code (n : Nat)
  | signal (n : Nat) (core : Bool := false)
  deriving DecidableEq, Repr

namespace ExitStatus

def signalName : Nat → String
  | 1 => " (SIGHUP)"
  | 2 => " (SIGINT)"
  | 3 => " (SIGQUIT)"
  | 4 => " (SIGILL)"
  | 5 => " (SIGTRAP)"
  | 6 => " (SIGABRT)"
  | 7 => " (SIGBUS)"
  | 8 => " (SIGFPE)"
  | 9 => " (SIGKILL)"
  | 10 => " (SIGUSR1)"
  | 11 => " (SIGSEGV)"
  | 12 => " (SIGUSR2)"
  | 13 => " (SIGPIPE)"
  | 14 => " (SIGALRM)"
  | 15 => " (SIGTERM)"
  | 16 => " (SIGSTKFLT)"
  | 17 => " (SIGCHLD)"
  | 18 => " (SIGCONT)"
  | 19 => " (SIGSTOP)"
  | 20 => " (SIGTSTP)"
  | 21 => " (SIGTTIN)"
  | 22 => " (SIGTTOU)"
  | 23 => " (SIGURG)"
  | 24 => " (SIGXCPU)"
  | 25 => " (SIGXFSZ)"
  | 26 => " (SIGVTALRM)"
  | 27 => " (SIGPROF)"
  | 28 => " (SIGWINCH)"
  | 29 => " (SIGIO)"
  | 30 => " (SIGPWR)"
  | 31 => " (SIGSYS)"
  | _ => ""

/-- The program ended with success. -/
def isSuccess : ExitStatus → Bool
  | .code n => n == 0
  | .signal .. => false

/-- The status in words. -/
def text : ExitStatus → String
  | .code n => "exit status: " ++ toString n
  | .signal n core => "signal: " ++ toString n ++ signalName n ++ if core then " (core dumped)" else ""

end ExitStatus

/-- What a program left when it ended. -/
structure Finished where
  status : ExitStatus
  stdout : Bytes
  stderr : Bytes
  deriving DecidableEq, Repr

/-- What was seen of a program that was started: how it ended, or why that is not known, and whether all of its
input was passed to it. -/
structure Completion where
  ended : Except SystemError Finished
  fed : Except SystemError Unit

/-- The programs that can be started. A program that cannot be started gives an error at once. -/
structure Programs (σ : Type) where
  start : Launch → Time → σ → Except SystemError (Reply σ Completion)

end FlakeImage
