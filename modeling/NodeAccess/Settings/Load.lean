import NodeAccess.Settings.Environment
import NodeAccess.Settings.Overlay
import NodeAccess.Toml.Document

/-!
# Loading settings

Settings come from one file, read strictly, or from layers, read leniently: what holds when nothing
is configured, the file of the user, that of the project, the local one, and the environment, each
over those before it. A file that is no document fails even where nothing of it would remain, and so
does a variable for a setting whose value is no text; what remains has to have the shape of
settings, and to be valid.
-/

set_option autoImplicit false

namespace NodeAccess

/-- Why settings cannot be read from one file. -/
inductive FileError where
  | missing
  /-- The file is no document, or what it says has not the shape of settings. -/
  | malformed
  | invalid (reason : InvalidSettings)
deriving DecidableEq

namespace Settings

/-- The settings in the text of one file, valid or not. -/
def ofText? (text : String) : Option Settings :=
  match Toml.read? text with
  | some es =>
    if (Tree.table es).integersWithin (-(twoPow 127 : Int)) (twoPow 128 - 1) then
      Tree.settings? Tree.strict (.table es)
    else none
  | none => none

/-- The settings in one file, which may be missing. -/
def ofFile : Option String → Except FileError Settings
  | none => .error .missing
  | some text =>
    match ofText? text with
    | none => .error .malformed
    | some s => s.validate.mapError .invalid

end Settings

/-- Where layers of settings come from. The files are those that are there, by their texts; what is
no text at all is no document either, and any text that is none can stand for it. -/
structure Sources where
  userFile : Option String := none
  projectFile : Option String := none
  localFile : Option String := none
  /-- The names and values of environment variables. -/
  environment : List (String × String) := []
  /-- The names of further environment variables, whose values are not Unicode. -/
  illegible : List String := []
deriving DecidableEq, Inhabited

/-- Why settings cannot be loaded from layers. -/
inductive LoadError where
  /-- Some file is no document, or the value of some variable for a setting is not Unicode. -/
  | malformedSource
  /-- What remains of the layers has not the shape of settings. -/
  | wrongShape
  | invalid (reason : InvalidSettings)
deriving DecidableEq

namespace LoadError

/-- What went wrong when settings could not be loaded. -/
def context : LoadError → String
  | malformedSource => "Failed to build configuration"
  | wrongShape => "Failed to deserialize configuration"
  | invalid _ => "Configuration failed validation"

end LoadError

/-- A choice of layers. -/
structure Loader where
  /-- The word with which the names of environment variables begin. -/
  word : String := "UANODE"
  includesUser : Bool := true
deriving DecidableEq, Inhabited

namespace Loader

/-- The layer of a file: the entries of a document whose integers have 64 bits. -/
def fileLayer? (text : String) : Option (List (String × Tree)) :=
  match Toml.read? text with
  | some es =>
    if (Tree.table es).integersWithin Int64.minValue.toInt Int64.maxValue.toInt then some es else none
  | none => none

/-- The layers of several files, if each of them is a document. -/
def fileLayers? : List String → Option (List (List (String × Tree)))
  | [] => some []
  | text :: texts =>
    match fileLayer? text, fileLayers? texts with
    | some l, some ls => some (l :: ls)
    | _, _ => none

/-- The files that are read, in the order of their layers. -/
def files (l : Loader) (s : Sources) : List String :=
  (if l.includesUser then s.userFile.toList else []) ++ s.projectFile.toList ++
    s.localFile.toList

/-- What the variables give, if those that give settings have texts for values. -/
def environmentLayer? (l : Loader) (s : Sources) : Option (List (String × Tree)) :=
  if s.illegible.any (Environment.givesSetting l.word) then none
  else some (Environment.settings l.word s.environment)

/-- The layers that are read, the lowest first. -/
def layers? (l : Loader) (s : Sources) : Option (List (List (String × Tree))) :=
  match fileLayers? (l.files s), l.environmentLayer? s with
  | some ls, some given => some (Settings.standardEntries :: ls ++ [given])
  | _, _ => none

/-- The settings that layers give. -/
def load (l : Loader) (s : Sources) : Except LoadError Settings :=
  match l.layers? s with
  | none => .error .malformedSource
  | some layers =>
    match Tree.settings? Tree.lenient (Tree.ofLayers layers) with
    | none => .error .wrongShape
    | some settings => settings.validate.mapError .invalid

/-- The settings that layers give, or those for nothing configured where they give none. -/
def loadOrStandard (l : Loader) (s : Sources) : Settings :=
  match l.load s with
  | .ok settings => settings
  | .error _ => .standard

end Loader

end NodeAccess
