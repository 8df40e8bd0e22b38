import EarlyMemory.Log.Level
import EarlyMemory.Text.Message

/-!
# The log

A logger has a threshold and one sink. An entry reaches the sink if its level is not below the
threshold, as one line without its end. Lines have room for 511 bytes and lose what is beyond;
a panic keeps 255 bytes of its message and adds the word in front afterwards, so its line always
fits. What is kept is handed on without its length, so it is read up to its first byte zero. Nothing
is remembered: what an entry leaves behind is its delivery, or nothing.
-/

namespace EarlyMemory

/-! ## Entries -/

/-- What is offered to the log. -/
structure Entry where
  level : Level
  message : Message
deriving DecidableEq, Repr

namespace Entry

/-- The number of bytes that a line has room for. -/
def lineRoom : Nat := 511

/-- The message as far as a line has room for it, up to a byte zero. The cut counts bytes, not
characters. -/
def line (e : Entry) : Bytes := Bytes.untilNul (e.message.bytes.take lineRoom)

/-- The number of bytes that a panic keeps of its message. -/
def panicRoom : Nat := 255

/-- The last entry before everything stops: the message, cut, behind the word `panic`. -/
def panic (m : Message) : Entry where
  level := .fatal
  message := ["panic: ", .text (Bytes.untilNul (m.bytes.take panicRoom))]

end Entry

/-! ## Sinks -/

/-- Where lines go: the standard error stream, or a recorder known by its label. -/
inductive Sink where
  | standardError
  | recorder (label : String)
deriving DecidableEq, Repr

/-- A line that has reached a sink. -/
structure Delivery where
  sink : Sink
  level : Level
  line : Bytes
deriving DecidableEq, Repr

/-- What the delivery adds to the standard error stream: the level's name, the line and a line
feed. A recorder prints nothing. -/
def Delivery.printed (d : Delivery) : Bytes :=
  match d.sink with
  | .standardError =>
    Bytes.ofString d.level.name ++ Bytes.ofString ": " ++ d.line ++ Bytes.ofString "\n"
  | .recorder _ => []

/-! ## Loggers -/

/-- The state of the log. -/
structure Logger where
  threshold : Level := .info
  sink : Sink := .standardError
deriving DecidableEq, Repr

namespace Logger

/-- Whether entries of this level are delivered. -/
def enabled (g : Logger) (l : Level) : Bool := g.threshold ≤ l

/-- The deliveries that an entry makes: one or none. -/
def log (g : Logger) (e : Entry) : List Delivery :=
  if g.enabled e.level then [{ sink := g.sink, level := e.level, line := e.line }] else []

/-- The deliveries of several entries in order. -/
def logAll (g : Logger) (es : List Entry) : List Delivery := es.flatMap g.log

/-- Sets the threshold. Any level may be one. -/
def setThreshold (g : Logger) (l : Level) : Logger := { g with threshold := l }

/-- Sets the sink; no sink means the standard error stream. -/
def setSink (g : Logger) (sink : Option Sink) : Logger :=
  { g with sink := sink.getD .standardError }

@[simp] theorem logAll_nil (g : Logger) : g.logAll [] = [] := rfl

@[simp] theorem logAll_cons (g : Logger) (e : Entry) (es : List Entry) :
    g.logAll (e :: es) = g.log e ++ g.logAll es := rfl

theorem logAll_append (g : Logger) (es fs : List Entry) :
    g.logAll (es ++ fs) = g.logAll es ++ g.logAll fs := by
  simp [logAll]

theorem log_eq_nil_iff (g : Logger) (e : Entry) : g.log e = [] ↔ g.enabled e.level = false := by
  simp [log]

end Logger

end EarlyMemory
