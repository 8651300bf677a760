import AppConfig.Settings.Environment
import AppConfig.Settings.Headers

/-!
# AppConfig.Settings.Telemetry

How the program reports on itself: where traces go, and how log lines look.
-/

namespace AppConfig

structure TelemetrySettings where
  /-- Whether traces are exported. -/
  enabled : Bool
  endpoint : String
  headers : Headers
  serviceName : String
  /-- Whether log lines are JSON. -/
  jsonLogs : Bool
  deriving DecidableEq, Repr

namespace TelemetrySettings

def defaultEndpoint : String := "http://localhost:4318/v1/traces"

def defaultServiceName : String := "config-lsp"

/-- Equality of ASCII letters in any case. -/
def sameWord (a b : String) : Bool := a.toList.map Char.toLower == b.toList.map Char.toLower

/-- The settings that an environment asks for. -/
def ofEnvironment (env : Environment) : TelemetrySettings where
  enabled := env.get? "OTEL_ENABLED" == some "true"
  endpoint := (env.get? "OTEL_EXPORTER_OTLP_ENDPOINT").getD defaultEndpoint
  headers := parseHeaders ((env.get? "OTEL_EXPORTER_OTLP_HEADERS").getD "").toList
  serviceName := (env.get? "OTEL_SERVICE_NAME").getD defaultServiceName
  jsonLogs := (env.get? "LOG_FORMAT").any (sameWord "json")

end TelemetrySettings

end AppConfig
