/-!
# Signals

The signals of the system by number: their names, what is said of a process
that one of them ended, and which ones end no process.
-/

namespace Rollout.Posix

/-- The highest signal. -/
def signalLimit : Nat := 64

/-- Names of the signals below the first one for free use. -/
def namedSignals : List (Nat × String) := [
  (1, "HUP"), (2, "INT"), (3, "QUIT"), (4, "ILL"), (5, "TRAP"), (6, "ABRT"), (7, "BUS"),
  (8, "FPE"), (9, "KILL"), (10, "USR1"), (11, "SEGV"), (12, "USR2"), (13, "PIPE"),
  (14, "ALRM"), (15, "TERM"), (17, "CHLD"), (18, "CONT"), (19, "STOP"), (20, "TSTP"),
  (21, "TTIN"), (22, "TTOU"), (23, "URG"), (24, "XCPU"), (25, "XFSZ"), (26, "VTALRM"),
  (27, "PROF"), (28, "WINCH"), (29, "IO"), (30, "PWR"), (31, "SYS")]

/-- The name of a signal. Those for free use are counted from both ends. -/
def signalName (signal : Nat) : String :=
  match namedSignals.lookup signal with
  | some name => name
  | none =>
    if signal = 34 then "RTMIN"
    else if signal = 64 then "RTMAX"
    else if 34 < signal && signal < 50 then s!"RTMIN+{signal - 34}"
    else if 50 ≤ signal && signal < 64 then s!"RTMAX-{64 - signal}"
    else toString signal

/-- The signal of a name, in either case. -/
def signalNamed? (name : String) : Option Nat :=
  let wanted := name.toUpper
  (List.range (signalLimit + 1)).find? fun signal => 0 < signal && signalName signal = wanted

/-- What is said of a process that a signal ended. -/
def signalTexts : List (Nat × String) := [
  (1, "Hangup"), (2, "Interrupt"), (3, "Quit"), (4, "Illegal instruction"),
  (5, "Trace/breakpoint trap"), (6, "Aborted"), (7, "Bus error"),
  (8, "Floating point exception"), (9, "Killed"), (10, "User defined signal 1"),
  (11, "Segmentation fault"), (12, "User defined signal 2"), (13, "Broken pipe"),
  (14, "Alarm clock"), (15, "Terminated"), (16, "Stack fault"), (17, "Child exited"),
  (18, "Continued"), (19, "Stopped (signal)"), (20, "Stopped"), (21, "Stopped (tty input)"),
  (22, "Stopped (tty output)"), (23, "Urgent I/O condition"), (24, "CPU time limit exceeded"),
  (25, "File size limit exceeded"), (26, "Virtual timer expired"),
  (27, "Profiling timer expired"), (28, "Window changed"), (29, "I/O possible"),
  (30, "Power failure"), (31, "Bad system call")]

def signalText (signal : Nat) : String :=
  match signalTexts.lookup signal with
  | some text => text
  | none =>
    if 34 ≤ signal && signal ≤ signalLimit then s!"Real-time signal {signal - 34}"
    else s!"Unknown signal {signal}"

/-- The signal that ends a process. It cannot be caught. -/
def killSignal : Nat := 9

/-- The signal for a process whose file grows too large. -/
def sizeSignal : Nat := 25

/-- The signal for a process that writes where nobody reads. -/
def pipeSignal : Nat := 13

/-- The signal for a process that is asked to end. -/
def endSignal : Nat := 15

/-- The signal for a process that has a child that ended. -/
def childSignal : Nat := 17

/-- The signal that lets a process go on that was told to pause. -/
def goOnSignal : Nat := 18

/-- The signal that lets a process pause. It cannot be caught. -/
def stopSignal : Nat := 19

/-- Signals that let a process pause, unless it asks for more. -/
def pausing : List Nat := [20, 21, 22]

/-- Signals that do nothing to a process, unless it asks for more. -/
def harmless : List Nat := [17, 18, 23, 28]

end Rollout.Posix
