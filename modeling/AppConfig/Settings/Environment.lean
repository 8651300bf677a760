/-!
# AppConfig.Settings.Environment

The variables that a process runs with.
-/

namespace AppConfig

/-- Variables with their values; of two with one name, the first counts. -/
abbrev Environment := List (String × String)

namespace Environment

def get? (env : Environment) (name : String) : Option String := env.lookup name

/-- Gives a variable a value unless it has one already. -/
def setDefault (env : Environment) (name value : String) : Environment :=
  match env.get? name with
  | some _ => env
  | none => (name, value) :: env

end Environment

end AppConfig
