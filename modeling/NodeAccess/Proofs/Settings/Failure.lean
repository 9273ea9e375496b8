import NodeAccess.Proofs.Settings.Layers

/-!
# How loading fails

What loading from layers ends in is decided in order. A file that is no document stops it, and so
does a variable for a setting whose value is not Unicode, whatever the other layers say. Then the
merged tree has to have the shape of settings, and last the settings have to be valid. So what
matters of a value below the top is only whether it survives merging: one that a higher layer
overrides can be anything.
-/

set_option autoImplicit false

namespace NodeAccess

namespace Loader

variable {l : Loader} {s s' : Sources}

/-- The text is a document, the integers of which have 64 bits. -/
def IsDocument (text : String) : Prop :=
  ∃ es, Toml.read? text = some es ∧
    (Tree.table es).integersWithin Int64.minValue.toInt Int64.maxValue.toInt = true

/-- The text is that of a file which the loader reads. -/
inductive Reads (l : Loader) (s : Sources) (text : String) : Prop
  | userFile (hincludes : l.includesUser = true) (h : s.userFile = some text)
  | projectFile (h : s.projectFile = some text)
  | localFile (h : s.localFile = some text)

theorem fileLayer?_eq_none_iff (text : String) : fileLayer? text = none ↔ ¬ IsDocument text := by
  simp only [IsDocument, ← fileLayer?_eq_some_iff, ← Option.ne_none_iff_exists', not_not]

theorem fileLayers?_eq_none_iff (texts : List String) :
    fileLayers? texts = none ↔ ∃ text ∈ texts, ¬ IsDocument text := by
  induction texts with
  | nil => simp [fileLayers?]
  | cons text texts ih =>
    simp only [List.mem_cons, exists_eq_or_imp]
    rw [← fileLayer?_eq_none_iff, ← ih, fileLayers?]
    cases fileLayer? text with
    | none => simp
    | some layer => cases fileLayers? texts <;> simp

theorem mem_files_iff (text : String) : text ∈ l.files s ↔ l.Reads s text := by
  simp only [files, List.mem_append, Option.mem_toList]
  constructor
  · rintro ((h | h) | h)
    · split at h
      · rename_i hincludes
        exact .userFile hincludes (by simpa using h)
      · exact absurd h List.not_mem_nil
    · exact .projectFile h
    · exact .localFile h
  · rintro (⟨hincludes, h⟩ | h | h)
    · simp [hincludes, h]
    · simp [h]
    · simp [h]

/-- There are no layers exactly if a file that is read is no document, or the value of a variable
for a setting is not Unicode. -/
theorem layers?_eq_none_iff : l.layers? s = none ↔ (∃ text, l.Reads s text ∧ ¬ IsDocument text) ∨
    ∃ name ∈ s.illegible, Environment.givesSetting l.word name = true := by
  have hfiles : fileLayers? (l.files s) = none ↔ ∃ text, l.Reads s text ∧ ¬ IsDocument text := by
    simp only [fileLayers?_eq_none_iff, mem_files_iff]
  rw [← hfiles, ← environmentLayer?_eq_none_iff, layers?]
  cases fileLayers? (l.files s) with
  | none => simp
  | some ls => cases l.environmentLayer? s <;> simp

variable {layers : List (List (String × Tree))} {c : Settings}

theorem load_of_shapeless (hlayers : l.layers? s = some layers)
    (hshape : Tree.settings? Tree.lenient (Tree.ofLayers layers) = none) :
    l.load s = .error .wrongShape := by
  simp only [load, hlayers, hshape]

theorem load_of_settings? (hlayers : l.layers? s = some layers)
    (hc : Tree.settings? Tree.lenient (Tree.ofLayers layers) = some c) :
    l.load s = c.validate.mapError .invalid := by
  simp only [load, hlayers, hc]

theorem mapError_invalid_ne {x : Except InvalidSettings Settings} {e : LoadError}
    (h : ∀ reason, e ≠ .invalid reason) : x.mapError .invalid ≠ .error e := by
  cases x with
  | error reason => simpa [Except.mapError] using (h reason).symm
  | ok c => simp [Except.mapError]

theorem load_eq_malformedSource_iff : l.load s = .error .malformedSource ↔ l.layers? s = none := by
  cases hlayers : l.layers? s with
  | none => simp [load, hlayers]
  | some layers =>
    cases hc : Tree.settings? Tree.lenient (Tree.ofLayers layers) with
    | none => simp [load_of_shapeless hlayers hc]
    | some c => simp [load_of_settings? hlayers hc, mapError_invalid_ne]

theorem load_eq_wrongShape_iff (hlayers : l.layers? s = some layers) :
    l.load s = .error .wrongShape ↔ Tree.Misfit Tree.lenient (Tree.ofLayers layers) := by
  rw [← Tree.settings?_eq_none_iff]
  cases hc : Tree.settings? Tree.lenient (Tree.ofLayers layers) with
  | none => simp [load_of_shapeless hlayers hc]
  | some c => simp [load_of_settings? hlayers hc, mapError_invalid_ne]

/-- Merged trees that agree on everything load alike. -/
theorem load_eq_of_agreeOn {layers' : List (List (String × Tree))} {part : String}
    (hlayers : l.layers? s = some layers) (hlayers' : l.layers? s' = some layers')
    (h : Tree.AgreeOn part (fun _ => True) (Tree.ofLayers layers) (Tree.ofLayers layers')) :
    l.load s = l.load s' := by
  have hshape := h.settings?_eq Tree.lenient (Tree.isTable_ofLayers _) (Tree.isTable_ofLayers _)
  simp only [load, hlayers, hlayers', hshape]

end Loader

theorem Settings.validate_eq_error_iff (c : Settings) :
    (∃ e, c.validate = .error e) ↔
      (∀ ch ∈ c.server.applicationName.toList, Text.isBlank ch = true) ∨
        ∃ entry ∈ c.security.defaultRoles, entry.role = .null := by
  have hproblem : (∃ e, c.validate = .error e) ↔ c.problem? ≠ none := by
    unfold validate
    cases c.problem? <;> simp
  rw [hproblem, Ne, problem?_eq_none_iff]
  grind

/-- A file with an integer of more than 64 bits in a key that settings do not have. -/
def greatLimitFile : String := "limit = 9223372036854775808\n"

/-- A file that gives a list for the name of the server. -/
def listNameFile : String := "[server]\napplication_name = []\n"

/-- A file that names the server. -/
def tankNameFile : String := "[server]\napplication_name = \"Tank\"\n"

/-- A file that gives another name. -/
def pumpNameFile : String := "[server]\napplication_name = \"Pump\"\n"

/-- The layer of such files. -/
def nameLayer (t : Tree) : List (String × Tree) :=
  [("server", .table [("application_name", t)])]

/-- A file with a number in place of the server. -/
def fiveServerFile : String := "server = 5\n"

/-- A file with an empty list in place of the server. -/
def emptyServerFile : String := "server = []\n"

/-- A file with a table of nothing for the server. -/
def plainServerFile : String := "[server]\n"

end NodeAccess
