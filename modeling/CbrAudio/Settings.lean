import CbrAudio.Json.Record
import CbrAudio.Limits

/-!
# Settings

The settings of a stream are kept in a JSON text with two sections, both of which may be left out
or given in part.

* `TransportSettings`, `LogSettings`, `Settings` — the sections and the whole, with the values
  that are in force when nothing is written.
* `TransportSettings.record`, `LogSettings.record`, `Settings.record` — how they are declared to a
  JSON library, with the readers of that library for the types of their fields.
* `Settings.parse` — **the settings** that a library finds in a text.
* `Settings.limits` — the limits on packets; milliseconds become nanoseconds, as far as a word
  holds them.
-/

namespace CbrAudio

/-- The section on the transport. -/
structure TransportSettings where
  payloadType : UInt8 := 0
  mtu : UInt64 := 1400
  minPtimeMillis : UInt64 := 0
  maxPtimeMillis : Option UInt64 := none
  clockRate : UInt32 := 8000
  deriving DecidableEq, Repr

/-- The section on the log. -/
structure LogSettings where
  path : String := "payloader.log"
  level : String := "info"
  toConsole : Bool := true
  toFile : Bool := false
  deriving DecidableEq, Repr

/-- All settings. -/
structure Settings where
  transport : TransportSettings := {}
  log : LogSettings := {}
  deriving DecidableEq, Repr

/-- Milliseconds as nanoseconds, or the longest time that a word holds. -/
def nanosOfMillis (millis : UInt64) : UInt64 :=
  UInt64.ofNatClamp (millis.toNat * nanosPerMilli)

namespace TransportSettings

/-- The section on the transport as it is declared. -/
def record (lib : Json.Library) : Json.Record TransportSettings where
  title := "TransportConfig"
  blank := {}
  fields := [
    .of "payload_type" lib.byte fun v t => { t with payloadType := v },
    .of "mtu" lib.size fun v t => { t with mtu := v },
    .of "min_ptime_ms" lib.word64 fun v t => { t with minPtimeMillis := v },
    .of "max_ptime_ms" (lib.optional lib.word64) fun v t => { t with maxPtimeMillis := v },
    .of "clock_rate" lib.word32 fun v t => { t with clockRate := v }]
  distinct := (by decide :
    ["payload_type", "mtu", "min_ptime_ms", "max_ptime_ms", "clock_rate"].Nodup)

def limits (t : TransportSettings) : Limits where
  payloadType := t.payloadType
  mtu := t.mtu
  minPtime := nanosOfMillis t.minPtimeMillis
  maxPtime := t.maxPtimeMillis.map nanosOfMillis
  clockRate := t.clockRate

end TransportSettings

/-- The section on the log as it is declared. -/
def LogSettings.record (lib : Json.Library) : Json.Record LogSettings where
  title := "LoggingConfig"
  blank := {}
  fields := [
    .of "log_file_path" lib.string fun v l => { l with path := v },
    .of "log_level" lib.string fun v l => { l with level := v },
    .of "enable_console" lib.boolean fun v l => { l with toConsole := v },
    .of "enable_file" lib.boolean fun v l => { l with toFile := v }]
  distinct := (by decide : ["log_file_path", "log_level", "enable_console", "enable_file"].Nodup)

namespace Settings

/-- The settings as they are declared.  A section that is written gets the blank values of its own
declaration, not those of the settings around it. -/
def record (lib : Json.Library) : Json.Record Settings where
  title := "PayloaderConfig"
  blank := {}
  fields := [
    .of "transport" (lib.derived (TransportSettings.record lib))
      fun v s => { s with transport := v },
    .of "logging" (lib.derived (LogSettings.record lib)) fun v s => { s with log := v }]
  distinct := (by decide : ["transport", "logging"].Nodup)

/-- **The settings** that a JSON library finds in a text.  It is `Json.library` unless another is
named. -/
def parse (text : String) (lib : Json.Library := Json.library) : Except Json.Fault Settings :=
  lib.fromText (lib.derived (record lib)) text

/-- The limits on packets that the settings ask for. -/
def limits (s : Settings) : Limits := s.transport.limits

end Settings

end CbrAudio
