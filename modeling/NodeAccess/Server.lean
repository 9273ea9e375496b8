import NodeAccess.Access.WellKnownRole
import NodeAccess.Settings.Load

/-!
# Servers

A server presents itself and holds the table that governs every node without a table of its own.
Its table comes from settings, and is the standard one where they configure none, or is given as it
is. Both are fixed once the server is made.
-/

set_option autoImplicit false

namespace NodeAccess

/-- A server. -/
structure Server where
  info : ServerInfo := .standard
  defaultTable : RoleTable
deriving DecidableEq, Inhabited

namespace Server

/-- The server that settings describe. -/
def ofSettings (s : Settings) : Server where
  info := s.server
  defaultTable := if s.table.isEmpty then .standard else s.table

/-- The server with a given table, be it empty or not. -/
def ofTable (table : RoleTable) : Server where
  defaultTable := table

/-- The server that one file describes. -/
def ofFile (file : Option String) : Except FileError Server :=
  (Settings.ofFile file).map ofSettings

/-- The server that the layers of a project describe. -/
def load (sources : Sources) : Except LoadError Server :=
  (Loader.load {} sources).map ofSettings

/-- What went wrong when a file describes no server. -/
def fileContext (path : String) : String :=
  "Failed to load server configuration file " ++ path

/-- What went wrong when the layers of a project describe no server. -/
def projectContext (directory : String) : String :=
  "Failed to load server configuration from " ++ directory

end Server

end NodeAccess
