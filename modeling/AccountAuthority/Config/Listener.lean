import AccountAuthority.Config.Assignments
import AccountAuthority.Config.Setting

/-!
# Where the authority listens

An internet address and a port, out of the settings.
-/

namespace AccountAuthority

/-- Files by their names. -/
abbrev Files := List (String × String)

/-- The address and port that the authority listens on. -/
structure Listener where
  host : IpAddress := .v4 0 0 0 0
  port : UInt16 := 8080
  deriving DecidableEq, Repr

namespace Listener

def toText (l : Listener) : String :=
  l.host.withPort l.port

/-- The name of a configuration file, up to the ending that tells its format. -/
def fileName : String := "configuration"

def variablesFile : String := ".env"

/-- The variables of a process together with those that its file adds. -/
def withVariablesFile (vars : Variables) (files : Files) : Variables :=
  (files.lookup variablesFile).elim vars vars.load

/-- The configuration file, its name and its text.  A file without an ending hides all others and
is not read. -/
def configurationFile? (files : Files) : Option (FileFormat × String × String) :=
  if (files.lookup fileName).isSome then none
  else FileFormat.all.findSome? fun format =>
    format.endings.findSome? fun ending =>
      let name := fileName ++ "." ++ ending
      (files.lookup name).map fun text => (format, name, text)

/-- A text without the mark that may stand before it to tell its encoding. -/
def withoutMark (text : String) : String :=
  String.ofList (Assignments.withoutMark text.toList)

/-- The settings of a process. -/
def settings (vars : Variables) (files : Files) : Except SettingError Settings := do
  let fromFile ← match configurationFile? files with
    | some (format, name, text) => (Settings.mk []).addFile format name (withoutMark text)
    | none => .ok ⟨[]⟩
  pure (fromFile.addVariables vars)

/-- Where a process listens, by its settings. -/
def ofSettings (s : Settings) : Except SettingError Listener := do
  let default : Listener := {}
  pure {
    host := ← (s.get? "host").elim (.ok default.host) Setting.toAddress
    port := ← (s.get? "port").elim (.ok default.port) Setting.toUInt16 }

/-- Where a process listens.  The variables are those that `withVariablesFile` gives. -/
def load (vars : Variables) (files : Files) : Except SettingError Listener := do
  ofSettings (← settings vars files)

end Listener

end AccountAuthority
