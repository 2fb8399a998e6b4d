import Sluice.Config.Settings
import Sluice.Log.Template
import Sluice.Text.Case
import Sluice.Text.Lines

/-!
# Loggers

A logger writes the entries that reach its threshold, each as a line in the form of a template.
It can be configured again at any time; that changes the threshold, but the template is the one
it was first configured with. On request a logger also takes over the warnings that other
libraries show, as entries of its own.
-/

set_option autoImplicit false

namespace Sluice

/-- A warning of another library, and the place in its text that caused it. -/
structure Warning where
  category : String
  file : String
  line : Nat
  text : String
  deriving DecidableEq, Repr

namespace Warning

/-- A warning as it is shown: a line of its own, with the line break. -/
def shown (w : Warning) : String :=
  w.file ++ ":" ++ toString w.line ++ ": " ++ w.category ++ ": " ++ w.text ++ "\n"

end Warning

structure Logger where
  name : String
  threshold : Level
  template : Template
  /-- Whether warnings are taken over. -/
  takesWarnings : Bool
  deriving DecidableEq, Repr

/-- Why a logger cannot be configured. -/
inductive LoggerError where
  | unknownLevel
  | malformedTemplate
  deriving DecidableEq, Repr

namespace Logger

/-- Configures a logger that may have been configured before. -/
def configure {α : Type} (before : Option Logger) (name : String) (s : Settings α)
    (takesWarnings : Bool) : Except LoggerError Logger :=
  match Level.find? (Text.upper s.logLevel) with
  | none => .error .unknownLevel
  | some level =>
    match before with
    | some l => .ok { l with threshold := level, takesWarnings := l.takesWarnings || takesWarnings }
    | none =>
      match Template.read? s.logFormat with
      | none => .error .malformedTemplate
      | some t => .ok ⟨name, level, t, takesWarnings⟩

/-- The rank that an entry must reach. A threshold that is not set is that of warnings. -/
def least (l : Logger) : Nat :=
  if l.threshold = .unset then Level.warning.rank else l.threshold.rank

/-- What the logger writes for an entry: nothing, or a text that ends its line. -/
def write (l : Logger) (e : LogEntry) : String :=
  if l.least ≤ e.level.rank then
    match l.template.render? l.name e with
    | some s => s ++ "\n"
    | none => ""
  else ""

/-- What the logger writes for some entries. -/
def writeAll (l : Logger) (es : List LogEntry) : String := String.join (es.map l.write)

/-- The entry of a warning, if warnings are taken over. -/
def entry? (l : Logger) (w : Warning) : Option LogEntry :=
  if l.takesWarnings then some ⟨.warning, w.shown⟩ else none

end Logger

end Sluice
