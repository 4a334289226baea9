import TraitCatalog.Text.Basic

namespace TraitCatalog

inductive LogLevel
  | debug
  | warning
  deriving DecidableEq, Repr

def LogLevel.name : LogLevel → Text
  | debug => "DEBUG"
  | warning => "WARNING"

-- The part of the program that speaks.
inductive LogSource
  | exchange
  | loading
  | consumers
  deriving DecidableEq, Repr

def LogSource.name : LogSource → Text
  | exchange => "doc_implementors.bridge.context"
  | loading => "doc_implementors.bridge.registration"
  | consumers => "doc_implementors.bridge.plugins"

structure LogRecord where
  level : LogLevel
  source : LogSource
  message : Text
  deriving DecidableEq, Repr

namespace LogRecord

def text (r : LogRecord) : Text :=
  r.level.name ++ " " ++ r.source.name ++ ": " ++ r.message

end LogRecord
end TraitCatalog
