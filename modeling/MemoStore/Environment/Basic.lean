/-!
# Variables

The named variables that a run is given. A name that is set twice keeps its first
value.
-/

namespace MemoStore

/-- Named variables. -/
structure Environment where
  bindings : List (String × String) := []
  deriving DecidableEq, Repr

namespace Environment

/-- The value of a variable. -/
def get? (env : Environment) (name : String) : Option String :=
  env.bindings.lookup name

/-- Sets a variable unless it is set. -/
def setDefault (env : Environment) (name value : String) : Environment :=
  if (env.get? name).isSome then env
  else { env with bindings := env.bindings ++ [(name, value)] }

end Environment

end MemoStore
