import CatalogQuery.Text

/-!
# Log records

What the command reports about its work.  A level lets through the records of
its own rank and above.
-/

namespace CatalogQuery

/-- The ranks of log records. -/
inductive LogLevel where
  | all
  | debug
  | info
  | warning
  | error
  | critical
deriving DecidableEq, Repr

namespace LogLevel

/-- The place of a level among the others. -/
def rank : LogLevel → Nat
  | all => 0
  | debug => 1
  | info => 2
  | warning => 3
  | error => 4
  | critical => 5

/-- The name of a level. -/
def name : LogLevel → String
  | all => "NOTSET"
  | debug => "DEBUG"
  | info => "INFO"
  | warning => "WARNING"
  | error => "ERROR"
  | critical => "CRITICAL"

/-- The level with a name. -/
def ofName? : String → Option LogLevel
  | "NOTSET" => some all
  | "DEBUG" => some debug
  | "INFO" => some info
  | "WARN" => some warning
  | "WARNING" => some warning
  | "ERROR" => some error
  | "FATAL" => some critical
  | "CRITICAL" => some critical
  | _ => none

end LogLevel

/-- A log record. -/
structure LogRecord where
  level : LogLevel
  logger : String
  message : Text
deriving DecidableEq, Repr

/-- The records that a level lets through. -/
def LogLevel.filter (threshold : LogLevel) (records : List LogRecord) : List LogRecord :=
  records.filter fun record => threshold.rank ≤ record.level.rank

end CatalogQuery
