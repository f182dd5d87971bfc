import Flipbook.Log
import Flipbook.Settings
import Flipbook.Value.Conversion

/-!
# Where messages go

A sink has handlers that write the messages which pass its threshold.  It is configured once: a
sink that has handlers stays as it is.
-/

namespace Flipbook

/-- The threshold of a value: a name in any case, a number, or that of the settings. -/
def LogLevel.thresholdOfValue (settings : Settings) : Value → Except ConversionFault Int
  | .null => .ok (threshold settings.logLevel)
  | .str name => .ok (threshold (Text.upper name))
  | v => v.toInt

/-- A handler of messages with the layout that it writes them in. -/
structure LogHandler where
  name : String
  layout : Option String
  deriving DecidableEq, Repr

/-- The handler that writes to a stream. -/
def LogHandler.stream : LogHandler :=
  ⟨"StreamHandler", some "%(asctime)s [%(levelname)s] %(name)s: %(message)s"⟩

/-- The handler that writes nothing. -/
def LogHandler.silent : LogHandler := ⟨"NullHandler", none⟩

/-- Where messages go. -/
structure LogSink where
  handlers : List LogHandler
  threshold : Int
  deriving DecidableEq, Repr

namespace LogSink

/-- A sink that has not been configured. -/
def fresh (handlers : List LogHandler) : LogSink := ⟨handlers, LogLevel.warning.severity⟩

/-- Configures a sink without handlers; the threshold has to make sense in any case. -/
def configure (sink : LogSink) (settings : Settings) (level : Value) :
    Except ConversionFault LogSink := do
  let threshold ← LogLevel.thresholdOfValue settings level
  return if sink.handlers.isEmpty then ⟨[.stream], threshold⟩ else sink

end LogSink

end Flipbook
