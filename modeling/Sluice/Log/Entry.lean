/-!
# Log entries

What the library has to say while it works is a list of entries, each with a level. Functions
return the entries beside their result; whether and how an entry is shown is decided where the
log is written.
-/

set_option autoImplicit false

namespace Sluice

/-- How important an entry is. The lowest level is no level of an entry but the threshold of a
log that takes its threshold from elsewhere. -/
inductive Level where
  | unset | debug | info | warning | error | critical
  deriving DecidableEq, Repr

namespace Level

/-- The rank of a level: an entry is shown when its rank reaches that of the threshold. -/
def rank : Level → Nat
  | .unset => 0
  | .debug => 10
  | .info => 20
  | .warning => 30
  | .error => 40
  | .critical => 50

/-- The word under which a level is shown. -/
def word : Level → String
  | .unset => "NOTSET"
  | .debug => "DEBUG"
  | .info => "INFO"
  | .warning => "WARNING"
  | .error => "ERROR"
  | .critical => "CRITICAL"

/-- All words that name a level; two levels have a second one. -/
def words : List (String × Level) :=
  [("CRITICAL", .critical), ("FATAL", .critical), ("ERROR", .error), ("WARN", .warning),
    ("WARNING", .warning), ("INFO", .info), ("DEBUG", .debug), ("NOTSET", .unset)]

/-- The level that a word of capitals names. -/
def find? (word : String) : Option Level := words.lookup word

end Level

structure LogEntry where
  level : Level
  text : String
  deriving DecidableEq, Repr

end Sluice
