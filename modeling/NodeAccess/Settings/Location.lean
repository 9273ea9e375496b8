/-!
# Where files of settings are

A project holds its file and a local one; the file of a user is in a directory of its own below
the one for configuration, which the environment may name by an absolute path.
-/

set_option autoImplicit false

namespace NodeAccess.Location

/-- A path followed by a relative one. -/
def join (base part : String) : String :=
  if base.isEmpty || base.toList.getLast? = some '/' then base ++ part
  else base ++ "/" ++ part

/-- The file of a project. -/
def projectFile (directory : String) : String :=
  join directory "uanode.toml"

/-- The local file of a project. -/
def localFile (directory : String) : String :=
  join directory "uanode.local.toml"

/-- Does the path begin at the root? -/
def isAbsolute (path : String) : Bool :=
  path.toList.head? = some '/'

/-- The directory of a user's configuration: the one that the environment names by an absolute
path, or the usual one in the user's home. -/
def configurationDirectory (home : String) (named : Option String) : String :=
  match named.filter isAbsolute with
  | some path => path
  | none => join home ".config"

/-- The directory of a user's file. -/
def userDirectory (home : String) (named : Option String) : String :=
  join (configurationDirectory home named) "uanode"

/-- The file of a user. -/
def userFile (home : String) (named : Option String) : String :=
  join (userDirectory home named) "config.toml"

end NodeAccess.Location
