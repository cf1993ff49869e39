/-!
How processes end: with a code, or by a signal.
-/

namespace BulkLoad.Host

inductive ExitStatus where
  | code (n : Nat)
  | signal (n : Nat)
  deriving DecidableEq, Repr, Inhabited

namespace ExitStatus

def signalNames : List (Nat × String) :=
  [(1, "SIGHUP"), (2, "SIGINT"), (3, "SIGQUIT"), (4, "SIGILL"), (5, "SIGTRAP"), (6, "SIGABRT"),
    (7, "SIGBUS"), (8, "SIGFPE"), (9, "SIGKILL"), (10, "SIGUSR1"), (11, "SIGSEGV"),
    (12, "SIGUSR2"), (13, "SIGPIPE"), (14, "SIGALRM"), (15, "SIGTERM"), (16, "SIGSTKFLT"),
    (17, "SIGCHLD"), (18, "SIGCONT"), (19, "SIGSTOP"), (20, "SIGTSTP"), (21, "SIGTTIN"),
    (22, "SIGTTOU"), (23, "SIGURG"), (24, "SIGXCPU"), (25, "SIGXFSZ"), (26, "SIGVTALRM"),
    (27, "SIGPROF"), (28, "SIGWINCH"), (29, "SIGIO"), (30, "SIGPWR"), (31, "SIGSYS")]

/-- The name of a signal in parentheses, where it has one. -/
def signalSuffix (n : Nat) : String :=
  match signalNames.lookup n with
  | some name => " (" ++ name ++ ")"
  | none => ""

def text : ExitStatus → String
  | code n => "exit status: " ++ toString n
  | signal n => "signal: " ++ toString n ++ signalSuffix n

/-- The process ended well. -/
def succeeded : ExitStatus → Bool
  | code n => n == 0
  | signal _ => false

/-- The exit code; a process that a signal ended has none. -/
def code? : ExitStatus → Option Nat
  | code n => some n
  | signal _ => none

end ExitStatus
end BulkLoad.Host
