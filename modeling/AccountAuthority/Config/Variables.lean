/-!
# Variables

The named texts that a process is started with.
-/

namespace AccountAuthority

/-- Named texts; of two with one name the first counts. -/
structure Variables where
  entries : List (String × String)
  deriving Repr

namespace Variables

def get? (v : Variables) (name : String) : Option String :=
  v.entries.lookup name

/-- Add a text, unless there is one with its name. -/
def setDefault (v : Variables) (name text : String) : Variables :=
  if (v.get? name).isSome then v else ⟨v.entries ++ [(name, text)]⟩

end Variables

end AccountAuthority
