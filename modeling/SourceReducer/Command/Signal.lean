/-! Signals: their numbers, their names and what is said about a process that one of them ended. -/
namespace SourceReducer.Signal

/-- The names and descriptions of the signals from the first one on. -/
def known : List (String × String) :=
  [("HUP", "Hangup"), ("INT", "Interrupt"), ("QUIT", "Quit"), ("ILL", "Illegal instruction"),
    ("TRAP", "Trace/breakpoint trap"), ("ABRT", "Aborted"), ("BUS", "Bus error"),
    ("FPE", "Floating point exception"), ("KILL", "Killed"), ("USR1", "User defined signal 1"),
    ("SEGV", "Segmentation fault"), ("USR2", "User defined signal 2"), ("PIPE", "Broken pipe"),
    ("ALRM", "Alarm clock"), ("TERM", "Terminated"), ("16", "Stack fault"),
    ("CHLD", "Child exited"), ("CONT", "Continued"), ("STOP", "Stopped (signal)"),
    ("TSTP", "Stopped"), ("TTIN", "Stopped (tty input)"), ("TTOU", "Stopped (tty output)"),
    ("URG", "Urgent I/O condition"), ("XCPU", "CPU time limit exceeded"),
    ("XFSZ", "File size limit exceeded"), ("VTALRM", "Virtual timer expired"),
    ("PROF", "Profiling timer expired"), ("WINCH", "Window changed"), ("IO", "I/O possible"),
    ("PWR", "Power failure"), ("SYS", "Bad system call")]

/-- One more than the highest number of a signal. -/
def limit : Nat := 65

/-- The names of the signals by number. Those above the known ones are counted from both ends of
their range, and number zero has the name `zero`. -/
def name (zero : String) (n : Nat) : String :=
  if n = 0 then zero
  else if n ≤ known.length then ((known[n - 1]?).map Prod.fst).getD ""
  else if n < 34 then toString n
  else if n = 34 then "RTMIN"
  else if n < 50 then s!"RTMIN+{n - 34}"
  else if n < 64 then s!"RTMAX-{64 - n}"
  else "RTMAX"

/-- What is said about a process that a signal ended. -/
def description (n : Nat) : String :=
  if n ≤ known.length then ((known[n - 1]?).map Prod.snd).getD ""
  else s!"Real-time signal {n - 34}"

/-- The signal with a number or a name, whose letters may be of either case. -/
def ofName? (zero : String) (text : String) : Option Nat :=
  if !text.isEmpty && text.toList.all Char.isDigit then text.toNat?.filter (· < limit)
  else
    (List.range limit).find? fun n =>
      (name zero n).toList.map Char.toLower == text.toList.map Char.toLower

/-- What a signal does to a process that does nothing about it. -/
inductive Effect
  | ends
  | stops
  | nothing

def effect (n : Nat) : Effect :=
  if [0, 17, 18, 23, 28].contains n then .nothing
  else if [19, 20, 21, 22].contains n then .stops
  else .ends

/-- Whether a signal can be neither caught nor ignored. -/
def isStrict (n : Nat) : Bool :=
  n = 9 || n = 19

/-- Whether the end of a process by a signal is passed over in silence. -/
def isSilent (n : Nat) : Bool :=
  n = 2 || n = 13

end SourceReducer.Signal
