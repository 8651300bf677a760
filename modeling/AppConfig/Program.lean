/-!
# AppConfig.Program

The name and the version under which the program presents itself.
-/

namespace AppConfig

def programName : String := "config-lsp"

def programVersion : String := "0.1.0"

end AppConfig
