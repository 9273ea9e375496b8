import Mathlib.Data.List.Forall2
import NodeAccess.Json.Decoder
import NodeAccess.Proofs.Json.Text

/-!
# What decoders recover

A decoder recovers a value from a JSON value if it finds it there whenever it may open all the
arrays and objects, and finds nothing when it may not. Texts, truth values and integers are
recovered as they are, options, lists and records from their parts. So of every type with fields it
is enough to know that its fields are recovered.
-/

set_option autoImplicit false

namespace NodeAccess

namespace Decoder

variable {α β : Type}

/-- All strings of the JSON value are texts, and the decoder finds the value where it may open as
many arrays and objects as are nested in it, and nothing where it may open fewer. -/
structure Recovers (d : Decoder α) (j : Json) (a : α) : Prop where
  texts : j.HoldsTexts
  found : ∀ depth, d depth j = if j.nesting ≤ depth then some a else none

/-- What a decoder recovers from a JSON value, it finds in the text of that value; unless the text
is nested too deep. -/
theorem Recovers.run_read? {d : Decoder α} {j : Json} {a : α} (h : d.Recovers j a) :
    (Json.read? j.toText).bind d.run = if j.nesting ≤ 127 then some a else none := by
  rw [Json.read?_toText j h.texts]
  exact h.found greatestDepth

/-- Values that are written to the same text are the same. -/
theorem Recovers.eq_of_toText_eq {d : Decoder α} {j j' : Json} {a a' : α} (h : d.Recovers j a)
    (h' : d.Recovers j' a') (htext : j.toText = j'.toText) : a = a' := by
  have hread := Json.read?_toText j h.texts
  rw [htext, Json.read?_toText j' h'.texts] at hread
  cases hread
  have hfound := h.found j.nesting
  rw [h'.found j.nesting, if_pos (Nat.le_refl _), if_pos (Nat.le_refl _)] at hfound
  exact (Option.some.inj hfound).symm

/-! ## Plain values -/

theorem recovers_boolean (b : Bool) : boolean.Recovers (.boolean b) b :=
  ⟨trivial, fun _ => rfl⟩

theorem recovers_text (s : String) : text.Recovers (.string s) s :=
  ⟨trivial, fun _ => rfl⟩

theorem recovers_integer {low high i : Int} (h : low ≤ i ∧ i ≤ high) :
    (integer low high).Recovers (.ofInt i) i := by
  refine ⟨trivial, ?_⟩
  intro depth
  simp [integer, Json.ofInt, Numeral.toInt?_ofInt, h, Json.nesting]

/-- Passing on what is recovered recovers what it is passed on as. -/
theorem Recovers.andThen {d : Decoder α} {j : Json} {a : α} {b : β} {f : α → Option β}
    (h : d.Recovers j a) (hf : f a = some b) : (d.andThen f).Recovers j b := by
  refine ⟨h.texts, ?_⟩
  intro depth
  rw [Decoder.andThen, h.found depth]
  split
  · exact hf
  · rfl

theorem recovers_natural {bound n : Nat} (h : n < bound) : (natural bound).Recovers (.ofNat n) n :=
  (recovers_integer (i := n) (by omega)).andThen rfl

theorem recovers_option {d : Decoder α} (toJson : α → Json) (hnull : ∀ a, toJson a ≠ .null)
    (o : Option α) (h : ∀ a ∈ o, d.Recovers (toJson a) a) :
    (option d).Recovers ((o.map toJson).getD .null) o := by
  cases o with
  | none => exact ⟨trivial, fun _ => rfl⟩
  | some a =>
    have ha := h a rfl
    refine ⟨ha.texts, ?_⟩
    intro depth
    rw [Option.map_some, Option.getD_some, option.eq_2 _ _ _ (hnull a), ha.found depth]
    split <;> rfl

/-! ## Lists -/

/-- If every item is recovered, so is the list of all items. -/
theorem collect_eq {d : Decoder α} {items : List Json} {as : List α}
    (h : List.Forall₂ d.Recovers items as) (depth : Nat) :
    collect (d depth) items = if Json.nestingOfItems items ≤ depth then some as else none := by
  induction h with
  | nil => simp [collect, Json.nestingOfItems]
  | @cons item a items as hitem _ ih =>
    -- the greater of two nestings is within the depth if both are
    rw [collect, hitem.found depth, ih, Json.nestingOfItems]
    simp only [Nat.max_le, ite_and]
    by_cases hfirst : item.nesting ≤ depth
    · by_cases hrest : Json.nestingOfItems items ≤ depth <;> simp [hfirst, hrest]
    · simp [hfirst]

theorem itemsHoldTexts {d : Decoder α} {items : List Json} {as : List α}
    (h : List.Forall₂ d.Recovers items as) : Json.ItemsHoldTexts items := by
  induction h with
  | nil => trivial
  | cons hitem _ ih => exact ⟨hitem.texts, ih⟩

theorem recovers_list {d : Decoder α} {items : List Json} {as : List α}
    (h : List.Forall₂ d.Recovers items as) : (list d).Recovers (.array items) as := by
  refine ⟨itemsHoldTexts h, ?_⟩
  intro depth
  cases depth with
  | zero => rfl
  | succ depth => simp [list, collect_eq h depth, Json.nesting]

theorem recovers_octets (bs : List UInt8) :
    octets.Recovers (.array (bs.map fun b => .ofNat b.toNat)) bs := by
  have hitems : List.Forall₂ ((natural 256).andThen fun n => some (UInt8.ofNat n)).Recovers
      (bs.map fun b => .ofNat b.toNat) bs := by
    rw [List.forall₂_map_left_iff, List.forall₂_same]
    intro b _
    exact (recovers_natural b.toNat_lt).andThen (by simp)
  exact ⟨(recovers_list hitems).texts, (recovers_list hitems).found⟩

end Decoder

/-! ## Records -/

namespace Fields

open Decoder

variable {α : Type} {names : List String} {members : List (String × Json)}

theorem areReadable_of_nodup (hnames : ∀ m ∈ members, m.1 ∈ names)
    (hnodup : (members.map Prod.fst).Nodup) : areReadable names members = true := by
  induction members with
  | nil => rfl
  | cons m members ih =>
    rw [List.map_cons, List.nodup_cons] at hnodup
    have hother : members.all (fun other => other.1 != m.1) = true := by
      simp only [List.all_eq_true, bne_iff_ne]
      intro other hmem hsame
      exact hnodup.1 (hsame ▸ List.mem_map_of_mem hmem)
    have hrest := ih (fun other hmem => hnames other (List.mem_cons_of_mem m hmem)) hnodup.2
    have hknown : m.1 ∈ names := hnames m List.mem_cons_self
    simp [areReadable, hother, hrest, hknown]

/-- A record is recovered from an object with its members if it is made from their fields. -/
theorem recovers_object {build : Fields → Option α} {a : α}
    (hnames : members.map Prod.fst = names) (hnodup : names.Nodup)
    (htexts : Json.MembersHoldTexts members)
    (hbuild : ∀ depth, build ⟨depth, members, false⟩ =
      if Json.nestingOfMembers members ≤ depth then some a else none) :
    ((find? names).andThen build).Recovers (.object members) a := by
  refine ⟨htexts, ?_⟩
  have hreadable : areReadable names members = true := by
    apply areReadable_of_nodup
    · intro m hmem
      exact hnames ▸ List.mem_map_of_mem hmem
    · rwa [hnames]
  intro depth
  -- the object takes up one level, the fields have the others
  cases depth with
  | zero => rfl
  | succ depth => simp [Decoder.andThen, find?, hreadable, hbuild, Json.nesting]

/-- Fields that are found together are found one after the other. -/
theorem bind_if {β : Type} (p : Prop) [Decidable p] (a : α) (f : α → Option β) :
    ((if p then some a else none) >>= f) = if p then f a else none := by
  split <;> rfl

theorem required_eq {depth : Nat} {positional : Bool} {name : String} {j : Json} {d : Decoder α}
    {a : α} (hlookup : members.lookup name = some j) (h : d.Recovers j a) :
    required ⟨depth, members, positional⟩ name d =
      if j.nesting ≤ depth then some a else none := by
  rw [required, hlookup]
  exact h.found depth

theorem withDefault_eq {depth : Nat} {positional : Bool} {name : String} {j : Json}
    {d : Decoder α} {a : α} (hlookup : members.lookup name = some j) (h : d.Recovers j a)
    (standard : α) : withDefault ⟨depth, members, positional⟩ name d standard =
      if j.nesting ≤ depth then some a else none := by
  rw [withDefault, hlookup]
  exact h.found depth

theorem optional_eq {depth : Nat} {positional : Bool} {name : String} {j : Json} {d : Decoder α}
    {o : Option α} (hlookup : members.lookup name = some j) (h : (option d).Recovers j o) :
    optional ⟨depth, members, positional⟩ name d =
      if j.nesting ≤ depth then some o else none := by
  rw [optional, hlookup]
  exact h.found depth

end Fields

end NodeAccess
