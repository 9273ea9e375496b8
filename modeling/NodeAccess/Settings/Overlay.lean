import NodeAccess.Settings.Place

/-!
# Laying settings over settings

What is laid over a tree wins. Tables are merged key by key, to any depth; anything else, an array
too, replaces what stood in its place. A table that is laid over something that is no table replaces
it too. So an empty table leaves a table as it is, and of anything else it leaves nothing.
-/

set_option autoImplicit false

namespace NodeAccess

namespace Tree

/-- The entries with the tree of a key changed, or added behind the others. -/
def change (f : Option Tree → Tree) (key : String) : List (String × Tree) → List (String × Tree)
  | [] => [(key, f none)]
  | (k, t) :: es => if k = key then (k, f (some t)) :: es else (k, t) :: change f key es

mutual

/-- A tree laid over what stood in its place. -/
def overlay (old : Option Tree) : Tree → Tree
  | table es => table (overlayEntries (old.getD unset).entries es)
  | t => t

/-- The entries of a table laid over other entries, one after another. -/
def overlayEntries (old : List (String × Tree)) : List (String × Tree) → List (String × Tree)
  | [] => old
  | (key, t) :: es => overlayEntries (change (fun old => overlay old t) key old) es

end

/-- The items with the one at an index changed. Places are added where the index lies outside. -/
def changeAt (f : Option Tree → Tree) (i : Int) (ts : List Tree) : List Tree :=
  if 0 ≤ i then
    let n := i.toNat
    ts.take n ++ List.replicate (n - ts.length) unset ++ f (ts[n]?.or (some unset)) ::
      ts.drop (n + 1)
  else
    let n := i.natAbs
    if n ≤ ts.length then
      let k := ts.length - n
      ts.take k ++ f ts[k]? :: ts.drop (k + 1)
    else
      f (some unset) :: List.replicate (n - ts.length - 1) unset ++ ts

/-- A tree laid over the place that steps lead to. Whatever stands in the way of a step is replaced
by an empty table or array. -/
def overlayAt (t : Tree) : List Step → Option Tree → Tree
  | [], old => overlay old t
  | .key name :: steps, old => table (change (overlayAt t steps) name (old.getD unset).entries)
  | .index i :: steps, old => array (changeAt (overlayAt t steps) i (old.getD unset).items)

/-- A tree laid over the place that a text names. -/
def set (root : Tree) (name : String) (t : Tree) : Tree :=
  let place := Place.ofText name
  table (change (overlayAt t place.steps) place.key root.entries)

/-- All entries of a layer laid over a tree, one after another. No order is promised to keys that
lead into each other, as `server` and `server.application_name` do. -/
def withLayer (root : Tree) (layer : List (String × Tree)) : Tree :=
  layer.foldl (fun root e => root.set e.1 e.2) root

/-- The tree of several layers, the first at the bottom. -/
def ofLayers (layers : List (List (String × Tree))) : Tree :=
  layers.foldl withLayer (table [])

end Tree

end NodeAccess
