import NodeAccess.Proofs.Settings.Shape
import NodeAccess.Proofs.Settings.Validity
import NodeAccess.Proofs.Toml.Document

/-!
# What each layer lays over the others

The merged tree is made of five layers, where a missing file is a layer that says nothing. There is
none if a file is no document, or a variable for a setting has a value that is no text. As long as
the files speak of the parts of settings in the tables of these names, and variables name keys of
the parts, each layer lays what it gives under a key over what stood there.
-/

set_option autoImplicit false

namespace NodeAccess

namespace Tree

variable {part : String}

/-- A layer lays what it gives under the keys of a part over what the part holds there. -/
structure Lays (part : String) (layer : List (String × Tree)) (gives : String → Option Tree) :
    Prop where
  holdsTable : ∀ {root : Tree}, HoldsTable part root → HoldsTable part (root.withLayer layer)
  find? : ∀ (root : Tree) (key : String),
    (root.withLayer layer).find? part key = laid (root.find? part key) (gives key)

theorem KeepsTo.lays {layer : List (String × Tree)} (h : KeepsTo part layer)
    (hpart : Place.ofText part = { key := part }) :
    Lays part layer ((table layer).find? part) :=
  ⟨h.holdsTable_withLayer hpart, h.find?_withLayer hpart⟩

/-! ## Variables -/

/-- The entry names a key of the part, if it names anything in the part. -/
def NamesKey (part name : String) : Prop :=
  (Place.ofText name).key = part → ∃ key, Place.ofText name = ⟨part, [.key key]⟩

/-- What the last entry gives that names a key of a part. -/
def lastAt (part : String) (layer : List (String × Tree)) (key : String) : Option Tree :=
  (layer.reverse.find? fun e => Place.ofText e.1 = ⟨part, [.key key]⟩).map Prod.snd

theorem lastAt_cons (e : String × Tree) (layer : List (String × Tree)) (key : String) :
    lastAt part (e :: layer) key =
      (lastAt part layer key).or
        (if Place.ofText e.1 = ⟨part, [.key key]⟩ then some e.2 else none) := by
  unfold lastAt
  rw [List.reverse_cons, List.find?_append, Option.map_or]
  by_cases hplace : Place.ofText e.1 = ⟨part, [.key key]⟩ <;> simp [hplace]

theorem exists_mem_of_lastAt {layer : List (String × Tree)} {key : String} {t : Tree}
    (h : lastAt part layer key = some t) : ∃ e ∈ layer, e.2 = t := by
  obtain ⟨e, he, rfl⟩ := Option.map_eq_some_iff.mp h
  exact ⟨e, List.mem_reverse.mp (List.mem_of_find?_eq_some he), rfl⟩

theorem laid_of_isTable_eq_false {v : Option Tree} (h : ∀ t ∈ v, t.isTable = false)
    (old : Option Tree) : laid old v = v.or old := by
  cases v with
  | none => rfl
  | some t => exact congrArg some (overlay_eq_self (h t rfl) old)

theorem HoldsTable.set {root : Tree} (h : HoldsTable part root) {name : String}
    (hname : NamesKey part name) (t : Tree) : HoldsTable part (root.set name t) := by
  by_cases hplace : (Place.ofText name).key = part
  · obtain ⟨key, hkey⟩ := hname hplace
    exact holdsTable_set_key hkey root t
  · intro new hnew
    rw [lookup_set_of_ne hplace] at hnew
    exact h new hnew

/-- Entries that name keys of a part and give no tables: the last one counts. -/
theorem lays_lastAt {layer : List (String × Tree)} (hnames : ∀ e ∈ layer, NamesKey part e.1)
    (hplain : ∀ e ∈ layer, e.2.isTable = false) : Lays part layer (lastAt part layer) := by
  constructor
  · intro root hroot
    induction layer generalizing root with
    | nil => exact hroot
    | cons e layer ih =>
      rw [withLayer_cons]
      exact ih (fun e he => hnames e (List.mem_cons_of_mem _ he))
        (fun e he => hplain e (List.mem_cons_of_mem _ he))
        (hroot.set (hnames e List.mem_cons_self) _)
  · intro root key
    have hlast : ∀ t ∈ lastAt part layer key, t.isTable = false := by
      intro t ht
      obtain ⟨e, he, rfl⟩ := exists_mem_of_lastAt ht
      exact hplain e he
    rw [laid_of_isTable_eq_false hlast]
    clear hlast
    -- on the entries from the front: what later ones give goes before what the first one gives
    induction layer generalizing root with
    | nil => rfl
    | cons e layer ih =>
      have hset : (root.set e.1 e.2).find? part key =
          (if Place.ofText e.1 = ⟨part, [.key key]⟩ then some e.2 else none).or
            (root.find? part key) := by
        by_cases hplace : (Place.ofText e.1).key = part
        · obtain ⟨name, hname⟩ := hnames e List.mem_cons_self hplace
          rw [find?_set_path (hplain e List.mem_cons_self) hname, hname]
          by_cases hkey : key = name
          · simp [hkey]
          · simp [hkey, Ne.symm hkey]
        · have hne : Place.ofText e.1 ≠ ⟨part, [.key key]⟩ := by
            intro h
            exact hplace (by rw [h])
          rw [find?, lookup_set_of_ne hplace, if_neg hne]
          rfl
      rw [withLayer_cons, ih (fun e he => hnames e (List.mem_cons_of_mem _ he))
        (fun e he => hplain e (List.mem_cons_of_mem _ he)), hset, lastAt_cons, Option.or_assoc]

theorem isRecord_ofVariable (value : String) : (ofVariable value).isRecord = false := by
  unfold ofVariable
  dsimp only
  split
  · rfl
  · split
    · rfl
    · split
      · rfl
      · split <;> rfl

end Tree

/-- Variables give no tables and no arrays. -/
theorem Environment.isRecord_of_mem_settings {word : String} {environment : List (String × String)}
    {e : String × Tree} (h : e ∈ settings word environment) : e.2.isRecord = false := by
  obtain ⟨⟨name, value⟩, -, hsetting⟩ := List.mem_filterMap.mp h
  obtain ⟨setting, -, rfl⟩ := Option.map_eq_some_iff.mp hsetting
  exact Tree.isRecord_ofVariable value

theorem Tree.isTable_of_isRecord_eq_false {t : Tree} (h : t.isRecord = false) :
    t.isTable = false := by
  cases t <;> simp_all [isRecord, isTable]

/-! ## Layers that speak plainly -/

/-- The parts of settings. -/
def Settings.parts : List String :=
  ["server", "security"]

theorem Settings.server_mem_parts : "server" ∈ parts :=
  List.mem_cons_self

theorem Settings.security_mem_parts : "security" ∈ parts :=
  List.mem_cons_of_mem _ List.mem_cons_self

theorem Tree.Place.ofText_of_mem_parts {part : String} (h : part ∈ Settings.parts) :
    ofText part = { key := part } := by
  simp only [Settings.parts, List.mem_cons, List.not_mem_nil, or_false] at h
  obtain rfl | rfl := h <;> decide

namespace Tree

variable {part : String}

/-- A layer has a table for a part, if anything, and none of its other keys is a path into the
part. -/
structure SpeaksPlainly (part : String) (layer : List (String × Tree)) : Prop where
  holdsTable : HoldsTable part (table layer)
  plain : ∀ e ∈ layer, (Place.ofText e.1).key = part → e.1 = part

theorem speaksPlainly_nil (part : String) : SpeaksPlainly part [] := by
  refine ⟨?_, fun _ he => absurd he List.not_mem_nil⟩
  intro t ht
  contradiction

/-- A layer with nothing but a table for the server speaks plainly. -/
theorem speaksPlainly_server (hpart : part ∈ Settings.parts) (es : List (String × Tree)) :
    SpeaksPlainly part [("server", table es)] := by
  constructor
  · intro t ht
    obtain ⟨front, back, hsplit, -⟩ := List.lookup_eq_some_iff.mp ht
    have hmem : (part, t) ∈ [("server", table es)] := by
      rw [← show _ = [("server", table es)] from hsplit.symm]
      simp
    cases List.mem_singleton.mp hmem
    rfl
  · intro e he hkey
    obtain rfl := List.mem_singleton.mp he
    rwa [Place.ofText_of_mem_parts Settings.server_mem_parts] at hkey

/-- What a well-formed layer gives is laid over what stood there, if the layer speaks plainly. -/
theorem SpeaksPlainly.lays {layer : List (String × Tree)} (h : SpeaksPlainly part layer)
    (hformed : (table layer).WellFormed) (hpart : part ∈ Settings.parts) :
    Lays part layer ((table layer).find? part) := by
  refine KeepsTo.lays ⟨⟨hformed.1, h.plain⟩, h.holdsTable, ?_⟩ (Place.ofText_of_mem_parts hpart)
  intro es hes
  exact (hformed.of_lookup hes).1

end Tree

theorem Settings.wellFormed_standardEntries : (Tree.table standardEntries).WellFormed := by
  simp [standardEntries, Tree.WellFormed, Tree.EntriesWellFormed, Tree.DistinctKeys]

theorem Settings.lays_standardEntries {part : String} (hpart : part ∈ parts) :
    Tree.Lays part standardEntries ((Tree.table standardEntries).find? part) :=
  (Tree.speaksPlainly_server hpart _).lays wellFormed_standardEntries hpart

/-! ## The five layers -/

namespace Loader

variable (l : Loader) (s : Sources)

/-- The file of the user, if the loader reads it. -/
def userFile : Option String :=
  if l.includesUser then s.userFile else none

/-- The layer of a file; a missing one says nothing. -/
def layer? : Option String → Option (List (String × Tree))
  | none => some []
  | some text => fileLayer? text

/-- What the variables give. -/
def environment : List (String × Tree) :=
  Environment.settings l.word s.environment

/-- The tree of all layers, given those of the files. -/
def merge (user project top : List (String × Tree)) : Tree :=
  Tree.ofLayers [Settings.standardEntries, user, project, top, l.environment s]

/-- The tree of all layers, if the files are documents and the variables have texts for values. -/
def merged? : Option Tree :=
  (layer? (l.userFile s)).bind fun user =>
    (layer? s.projectFile).bind fun project =>
      (layer? s.localFile).bind fun top =>
        (l.environmentLayer? s).map fun _ => l.merge s user project top

theorem environmentLayer?_eq_none_iff : l.environmentLayer? s = none ↔
    ∃ name ∈ s.illegible, Environment.givesSetting l.word name = true := by
  rw [environmentLayer?, ← List.any_eq_true]
  split <;> simp_all

theorem eq_environment_of_environmentLayer? {layer : List (String × Tree)}
    (h : l.environmentLayer? s = some layer) : layer = l.environment s := by
  unfold environmentLayer? at h
  split at h
  · contradiction
  · exact (Option.some.inj h).symm

/-- A file that may be missing adds its layer to those of the files behind it. -/
theorem foldl_fileLayers? (file : Option String) (texts : List String) (root : Tree) :
    (fileLayers? (file.toList ++ texts)).map (·.foldl Tree.withLayer root) =
      (layer? file).bind fun layer =>
        (fileLayers? texts).map (·.foldl Tree.withLayer (root.withLayer layer)) := by
  cases file with
  | none => rfl
  | some text =>
    rw [Option.toList_some, List.singleton_append, fileLayers?, layer?]
    cases fileLayer? text with
    | none => rfl
    | some layer => cases fileLayers? texts <;> rfl

theorem map_ofLayers_layers? : (l.layers? s).map Tree.ofLayers = l.merged? s := by
  have hfiles : l.files s = (l.userFile s).toList ++ (s.projectFile.toList ++
      (s.localFile.toList ++ [])) := by
    unfold files userFile
    split <;> simp
  have hsplit : ∀ ls : List (List (String × Tree)),
      Tree.ofLayers (Settings.standardEntries :: ls ++ [l.environment s]) =
        (ls.foldl Tree.withLayer (Tree.ofLayers [Settings.standardEntries])).withLayer
          (l.environment s) := by
    intro ls
    simp [Tree.ofLayers]
  have hcompose : (l.layers? s).map Tree.ofLayers =
      ((fileLayers? (l.files s)).map
        (·.foldl Tree.withLayer (Tree.ofLayers [Settings.standardEntries]))).bind
          fun root => (l.environmentLayer? s).map fun _ => root.withLayer (l.environment s) := by
    unfold layers?
    cases hlayers : fileLayers? (l.files s) with
    | none => rfl
    | some ls =>
      cases hvariables : l.environmentLayer? s with
      | none => rfl
      | some given =>
        obtain rfl := eq_environment_of_environmentLayer? l s hvariables
        exact congrArg some (hsplit ls)
  -- now the files are taken one by one, each laid over those before it
  rw [hcompose, hfiles, foldl_fileLayers?, merged?]
  simp only [foldl_fileLayers?]
  cases layer? (l.userFile s) with
  | none => rfl
  | some user =>
    cases layer? s.projectFile with
    | none => rfl
    | some project => cases layer? s.localFile <;> rfl

theorem load_eq_merged? : l.load s =
    match l.merged? s with
    | none => .error .malformedSource
    | some root =>
      match Tree.settings? Tree.lenient root with
      | none => .error .wrongShape
      | some c => c.validate.mapError .invalid := by
  rw [← map_ofLayers_layers?, load]
  cases l.layers? s <;> rfl

variable {l : Loader} {s : Sources} {user project top : List (String × Tree)} {root : Tree}
  {part : String}

/-- The files have these layers, and variables have texts for values. -/
structure ReadsAs (l : Loader) (s : Sources) (user project top : List (String × Tree)) : Prop where
  userFile : layer? (l.userFile s) = some user
  projectFile : layer? s.projectFile = some project
  localFile : layer? s.localFile = some top
  environment : l.environmentLayer? s = some (l.environment s)

theorem merged?_eq_some_iff : l.merged? s = some root ↔
    ∃ user project top, l.ReadsAs s user project top ∧ l.merge s user project top = root := by
  unfold merged?
  constructor
  · intro h
    obtain ⟨user, huser, h⟩ := Option.bind_eq_some_iff.mp h
    obtain ⟨project, hproject, h⟩ := Option.bind_eq_some_iff.mp h
    obtain ⟨top, htop, h⟩ := Option.bind_eq_some_iff.mp h
    obtain ⟨given, hvariables, h⟩ := Option.map_eq_some_iff.mp h
    obtain rfl := eq_environment_of_environmentLayer? l s hvariables
    exact ⟨user, project, top, ⟨huser, hproject, htop, hvariables⟩, h⟩
  · rintro ⟨user, project, top, hreads, rfl⟩
    rw [hreads.userFile, hreads.projectFile, hreads.localFile, hreads.environment]
    rfl

theorem isTable_merge : (l.merge s user project top).isTable = true :=
  Tree.isTable_ofLayers _

theorem settings?_of_load {c : Settings} (h : l.load s = .ok c) :
    ∃ root, l.merged? s = some root ∧ Tree.settings? Tree.lenient root = some c := by
  rw [load_eq_merged?] at h
  cases hroot : l.merged? s with
  | none => simp [hroot] at h
  | some root =>
    cases hc : Tree.settings? Tree.lenient root with
    | none => simp [hroot, hc] at h
    | some d =>
      simp only [hroot, hc] at h
      obtain ⟨-, rfl⟩ := (d.validate_eq_ok_iff c).mp (mapError_eq_ok_iff.mp h)
      exact ⟨root, rfl, hc⟩

/-- Loading gives valid settings for which the merged tree has the shape. -/
theorem load_of_merged? {c : Settings} (hroot : l.merged? s = some root)
    (hc : Tree.settings? Tree.lenient root = some c) (hvalid : c.problem? = none) :
    l.load s = .ok c := by
  have hvalidate : c.validate = .ok c := (c.validate_eq_ok_iff c).mpr ⟨hvalid, rfl⟩
  simp only [load_eq_merged?, hroot, hc, hvalidate]
  rfl

theorem fileLayer?_eq_some_iff (text : String) (es : List (String × Tree)) :
    fileLayer? text = some es ↔ Toml.read? text = some es ∧
      (Tree.table es).integersWithin Int64.minValue.toInt Int64.maxValue.toInt = true := by
  unfold fileLayer?
  cases Toml.read? text with
  | none => simp
  | some ts =>
    simp only [Option.ite_none_right_eq_some, Option.some.injEq]
    constructor
    · rintro ⟨hwithin, rfl⟩
      exact ⟨rfl, hwithin⟩
    · rintro ⟨rfl, hwithin⟩
      exact ⟨hwithin, rfl⟩

theorem wellFormed_of_layer? {file : Option String} {layer : List (String × Tree)}
    (h : layer? file = some layer) : (Tree.table layer).WellFormed := by
  cases file with
  | none =>
    cases h
    exact ⟨List.nodup_nil, trivial⟩
  | some text => exact Toml.wellFormed_of_read? ((fileLayer?_eq_some_iff text layer).mp h).1

/-- The files speak of a part of settings plainly, and variables name keys of the part. -/
structure Plain (l : Loader) (s : Sources) (part : String) : Prop where
  files : ∀ file ∈ [l.userFile s, s.projectFile, s.localFile], ∀ layer, layer? file = some layer →
    Tree.SpeaksPlainly part layer
  environment : ∀ e ∈ l.environment s, Tree.NamesKey part e.1

theorem isRecord_of_lastAt_environment {key : String} {t : Tree}
    (h : Tree.lastAt part (l.environment s) key = some t) : t.isRecord = false := by
  obtain ⟨e, he, rfl⟩ := Tree.exists_mem_of_lastAt h
  exact Environment.isRecord_of_mem_settings he

/-- What the merged tree of plain layers holds in a part. -/
theorem Plain.merge (h : l.Plain s part) (hpart : part ∈ Settings.parts)
    (hreads : l.ReadsAs s user project top) :
    Tree.HoldsTable part (l.merge s user project top) ∧ ∀ key,
      (l.merge s user project top).find? part key =
        Tree.laid (Tree.laid (Tree.laid (Tree.laid
          (Tree.laid none ((Tree.table Settings.standardEntries).find? part key))
          ((Tree.table user).find? part key)) ((Tree.table project).find? part key))
          ((Tree.table top).find? part key)) (Tree.lastAt part (l.environment s) key) := by
  have hlays : ∀ {file layer}, file ∈ [l.userFile s, s.projectFile, s.localFile] →
      layer? file = some layer → Tree.Lays part layer ((Tree.table layer).find? part) :=
    fun hfile hlayer => (h.files _ hfile _ hlayer).lays (wellFormed_of_layer? hlayer) hpart
  have hstandard := Settings.lays_standardEntries hpart
  have huser := hlays (by simp) hreads.userFile
  have hproject := hlays (by simp) hreads.projectFile
  have htop := hlays (by simp) hreads.localFile
  have hvariables : Tree.Lays part (l.environment s) (Tree.lastAt part (l.environment s)) := by
    refine Tree.lays_lastAt h.environment ?_
    exact fun e he => Tree.isTable_of_isRecord_eq_false (Environment.isRecord_of_mem_settings he)
  simp only [Loader.merge, Tree.ofLayers, List.foldl_cons, List.foldl_nil]
  refine ⟨?_, ?_⟩
  · apply hvariables.holdsTable
    apply htop.holdsTable
    apply hproject.holdsTable
    apply huser.holdsTable
    exact hstandard.holdsTable (Tree.speaksPlainly_nil part).holdsTable
  · intro key
    rw [hvariables.find?, htop.find?, hproject.find?, huser.find?, hstandard.find?]
    rfl

end Loader

end NodeAccess
