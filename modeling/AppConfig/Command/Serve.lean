import AppConfig.Error
import AppConfig.Net.Address
import AppConfig.Report
import AppConfig.Settings.Server

/-!
# AppConfig.Command.Serve

What is announced before the language server listens on an address.
-/

namespace AppConfig.Command

/-- The announcement of a server on an address. -/
def banner (color : Bool) (address : Net.Address) (port : Nat) (settings : ServerSettings) :
    String :=
  Style.brightBlue.apply color "Starting WebSocket language server..." ++ "\n" ++
    "  Endpoint: ws://" ++ address.renderWithPort port ++ "/lsp\n" ++
    "  Debounce: " ++ toString settings.debounce ++ "ms\n\n"

/-- The announcement for a host; it has to be an address. -/
def announce (color : Bool) (host : String) (port : Nat) (settings : ServerSettings) :
    Except Error String :=
  match Net.Address.parse? host.toList with
  | some address => .ok (banner color address port settings)
  | none => .error (.invalidInput ("invalid host address: " ++ host))

end AppConfig.Command
