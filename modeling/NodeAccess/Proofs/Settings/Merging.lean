import NodeAccess.Settings.Overlay

/-!
# Merged trees, place by place

A layer acts on a merged tree one key at a time. So what a merged tree holds under two keys follows
from what it held there before and what the layer gives there, as long as no key of the layer is a
path that leads to the place by another way.

What a layer replaces leaves no trace: two trees that differ in one place only are the same once
something other than a table has been laid over that place.
-/

set_option autoImplicit false

namespace NodeAccess.Tree

/-- What a tree holds under a key of the table that it holds under another key. -/
def find? (t : Tree) (part key : String) : Option Tree :=
  (t.entries.lookup part).bind fun t => t.entries.lookup key

/-- Is the tree a table? -/
def isTable : Tree → Bool
  | table _ => true
  | _ => false

/-- What stands in a place after something, or nothing, is laid over it. -/
def laid (old : Option Tree) : Option Tree → Option Tree
  | none => old
  | some t => some (overlay old t)

/-- No key occurs twice. -/
def DistinctKeys (es : List (String × Tree)) : Prop :=
  (es.map Prod.fst).Nodup

theorem isTable_iff {t : Tree} : t.isTable = true ↔ ∃ es, t = table es := by
  cases t <;> simp [isTable]

theorem overlay_eq_self {t : Tree} (h : t.isTable = false) (old : Option Tree) :
    overlay old t = t := by
  cases t with
  | table es => simp [isTable] at h
  | _ => simp only [overlay]

/-! ## One key -/

theorem lookup_cons_of_ne {k key : String} (h : k ≠ key) (t : Tree) (es : List (String × Tree)) :
    ((key, t) :: es).lookup k = es.lookup k := by
  have hbeq : (k == key) = false := by simpa using h
  rw [List.lookup_cons, hbeq]

theorem lookup_eq_none_of_notMem {key : String} {es : List (String × Tree)}
    (h : key ∉ es.map Prod.fst) : es.lookup key = none := by
  rw [List.lookup_eq_none_iff]
  intro e he
  have hne : key ≠ e.1 := by
    rintro rfl
    exact h (List.mem_map_of_mem he)
  simpa using hne

theorem lookup_change (f : Option Tree → Tree) (key k : String) (es : List (String × Tree)) :
    (change f key es).lookup k = if k = key then some (f (es.lookup key)) else es.lookup k := by
  induction es with
  | nil =>
    by_cases hk : k = key
    · simp [change, hk]
    · simp [change, lookup_cons_of_ne hk, hk]
  | cons e es ih =>
    obtain ⟨name, t⟩ := e
    by_cases hname : name = key
    · subst hname
      by_cases hk : k = name
      · simp [change, hk]
      · simp [change, lookup_cons_of_ne hk, hk]
    · rw [change, if_neg hname]
      by_cases hk : k = name
      · simp [hk, hname]
      · rw [lookup_cons_of_ne hk, lookup_cons_of_ne hk, lookup_cons_of_ne (Ne.symm hname), ih]

/-- Each entry of a table is laid over what stood under its key. -/
theorem lookup_overlayEntries {es : List (String × Tree)} (h : DistinctKeys es)
    (old : List (String × Tree)) (k : String) :
    (overlayEntries old es).lookup k = laid (old.lookup k) (es.lookup k) := by
  induction es generalizing old with
  | nil => simp [overlayEntries, laid]
  | cons e es ih =>
    obtain ⟨key, t⟩ := e
    obtain ⟨hkey, hes⟩ := List.nodup_cons.mp h
    rw [overlayEntries, ih hes, lookup_change]
    by_cases hk : k = key
    · subst hk
      simp [lookup_eq_none_of_notMem hkey, laid]
    · rw [if_neg hk, lookup_cons_of_ne hk]

theorem lookup_entries_getD (old : Option Tree) (k : String) :
    (old.getD unset).entries.lookup k = old.bind fun t => t.entries.lookup k := by
  cases old <;> rfl

/-! ## Two keys -/

variable {part : String}

theorem lookup_set (root : Tree) (name : String) (t : Tree) (k : String) :
    (root.set name t).entries.lookup k =
      if k = (Place.ofText name).key then
        some (overlayAt t (Place.ofText name).steps
          (root.entries.lookup (Place.ofText name).key))
      else root.entries.lookup k := by
  rw [set, entries, lookup_change]

/-- A path that leads elsewhere leaves a part alone. -/
theorem lookup_set_of_ne {root : Tree} {name : String} {t : Tree}
    (h : (Place.ofText name).key ≠ part) :
    (root.set name t).entries.lookup part = root.entries.lookup part := by
  rw [lookup_set, if_neg h.symm]

/-- What a tree holds under two keys once something is laid where a path through them leads. -/
theorem find?_set_key {name field : String} {steps : List Step}
    (hname : Place.ofText name = ⟨part, .key field :: steps⟩) (root t : Tree) (key : String) :
    (root.set name t).find? part key =
      if key = field then some (overlayAt t steps (root.find? part field))
      else root.find? part key := by
  have hentries : ∀ k, ((root.entries.lookup part).getD unset).entries.lookup k =
      root.find? part k := lookup_entries_getD _
  rw [find?, lookup_set, hname, if_pos rfl, Option.bind_some, overlayAt, entries, lookup_change,
    hentries, hentries]

/-- What a tree holds where a path of two keys leads. -/
theorem find?_set_path {name field : String} {t : Tree} (ht : t.isTable = false)
    (hname : Place.ofText name = ⟨part, [.key field]⟩) (root : Tree) (key : String) :
    (root.set name t).find? part key = if key = field then some t else root.find? part key := by
  rw [find?_set_key hname, overlayAt, overlay_eq_self ht]

/-- No key of the layer occurs twice, and none is a path into a part of the settings. -/
structure PlainAt (part : String) (layer : List (String × Tree)) : Prop where
  distinct : DistinctKeys layer
  plain : ∀ e ∈ layer, (Place.ofText e.1).key = part → e.1 = part

theorem PlainAt.tail {e : String × Tree} {layer : List (String × Tree)}
    (h : PlainAt part (e :: layer)) : PlainAt part layer :=
  ⟨(List.nodup_cons.mp h.distinct).2, fun e he => h.plain e (List.mem_cons_of_mem _ he)⟩

theorem withLayer_cons (root : Tree) (e : String × Tree) (layer : List (String × Tree)) :
    root.withLayer (e :: layer) = (root.set e.1 e.2).withLayer layer :=
  List.foldl_cons ..

/-- What a layer without paths into a part has for the part is laid over it. -/
theorem PlainAt.lookup_withLayer {layer : List (String × Tree)} (h : PlainAt part layer)
    (hpart : Place.ofText part = { key := part }) (root : Tree) :
    (root.withLayer layer).entries.lookup part =
      laid (root.entries.lookup part) (layer.lookup part) := by
  induction layer generalizing root with
  | nil => rfl
  | cons e layer ih =>
    obtain ⟨name, t⟩ := e
    rw [withLayer_cons, ih h.tail]
    by_cases hname : name = part
    · subst hname
      have hfresh : name ∉ layer.map Prod.fst := (List.nodup_cons.mp h.distinct).1
      rw [lookup_set, hpart, if_pos rfl, lookup_eq_none_of_notMem hfresh, List.lookup_cons_self]
      rfl
    · have hplace : (Place.ofText name).key ≠ part := by
        intro hkey
        exact hname (h.plain (name, t) List.mem_cons_self hkey)
      rw [lookup_set_of_ne hplace, lookup_cons_of_ne (Ne.symm hname)]

/-- A part is a table, if it is there at all. -/
def HoldsTable (part : String) (root : Tree) : Prop :=
  ∀ t, root.entries.lookup part = some t → t.isTable = true

/-- A path through a key of a part makes a table of the part. -/
theorem holdsTable_set_key {name field : String} {steps : List Step}
    (hname : Place.ofText name = ⟨part, .key field :: steps⟩) (root t : Tree) :
    HoldsTable part (root.set name t) := by
  intro new hnew
  rw [lookup_set, hname, if_pos rfl] at hnew
  obtain rfl := Option.some.inj hnew
  rfl

/-- The layer says something about a part of the settings in the table of that name only. -/
structure KeepsTo (part : String) (layer : List (String × Tree)) : Prop
    extends PlainAt part layer where
  holdsTable : HoldsTable part (.table layer)
  distinctInPart : ∀ es, layer.lookup part = some (.table es) → DistinctKeys es

/-- A layer that keeps to the table of a part is laid over that table, key by key. -/
theorem KeepsTo.find?_withLayer {layer : List (String × Tree)} (h : KeepsTo part layer)
    (hpart : Place.ofText part = { key := part }) (root : Tree) (key : String) :
    (root.withLayer layer).find? part key =
      laid (root.find? part key) ((Tree.table layer).find? part key) := by
  rw [find?, h.lookup_withLayer hpart, find?, find?, entries]
  cases hlayer : layer.lookup part with
  | none => rfl
  | some t =>
    obtain ⟨es, rfl⟩ := isTable_iff.mp (h.holdsTable t hlayer)
    have hes : DistinctKeys es := h.distinctInPart es hlayer
    rw [laid, Option.bind_some, overlay, entries, lookup_overlayEntries hes, lookup_entries_getD]
    rfl

theorem KeepsTo.holdsTable_withLayer {layer : List (String × Tree)} (h : KeepsTo part layer)
    (hpart : Place.ofText part = { key := part }) {root : Tree} (hroot : HoldsTable part root) :
    HoldsTable part (root.withLayer layer) := by
  intro t ht
  rw [h.lookup_withLayer hpart] at ht
  cases hlayer : layer.lookup part with
  | none =>
    rw [hlayer] at ht
    exact hroot t ht
  | some new =>
    obtain ⟨es, rfl⟩ := isTable_iff.mp (h.holdsTable new hlayer)
    rw [hlayer, laid, overlay] at ht
    obtain rfl := Option.some.inj ht
    rfl

theorem isTable_withLayer {root : Tree} (h : root.isTable = true)
    (layer : List (String × Tree)) : (root.withLayer layer).isTable = true := by
  induction layer generalizing root with
  | nil => exact h
  | cons e layer ih => exact ih rfl

/-- Merged layers are a table. -/
theorem isTable_ofLayers (layers : List (List (String × Tree))) :
    (ofLayers layers).isTable = true := by
  have hfold : ∀ root : Tree, root.isTable = true →
      (layers.foldl withLayer root).isTable = true := by
    induction layers with
    | nil => exact fun _ h => h
    | cons layer layers ih => exact fun root h => ih _ (isTable_withLayer h layer)
  exact hfold _ rfl

end NodeAccess.Tree
