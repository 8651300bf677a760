import AppConfig.Settings.Environment
import AppConfig.Text.Digits
import AppConfig.Text.White

/-!
# AppConfig.Settings.Server

The settings of the language server.
-/

namespace AppConfig

structure ServerSettings where
  /-- The quiet period, in milliseconds, after the last edit before a document is validated. -/
  debounce : Nat
  deriving DecidableEq, Repr

namespace ServerSettings

def default : ServerSettings := ⟨300⟩

def debounceVariable : String := "CONFIG_LSP_DEBOUNCE_MS"

/-- The settings that an environment asks for. A value that is no number of 64 bits is ignored. -/
def ofEnvironment (env : Environment) : ServerSettings :=
  match env.get? debounceVariable with
  | none => default
  | some value =>
    match Text.readBelow? Text.wordBound (Text.trim value.toList) with
    | some ms => ⟨ms⟩
    | none => default

/-- The settings with a period given on the command line, if there is one. -/
def withDebounce (s : ServerSettings) : Option Nat → ServerSettings
  | some ms => ⟨ms⟩
  | none => s

end ServerSettings

end AppConfig
