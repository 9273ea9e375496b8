import NodeAccess.Proofs.NodeId.Text
import NodeAccess.Proofs.Text.Spelling

/-!
# What node identifiers look like

The grammar of the text of node identifiers, with the identifier that each text stands for. A
namespace and its semicolon come first or are left out; a letter and an equals sign tell what the
rest is. The reader accepts what the grammar describes, finds the identifier that the grammar gives,
and refuses every other text with an error.

The marker before the groups of a globally unique identifier may have letters of either case. In
the grammar this is a parameter, so that the grammar with the marker in lower case only can be told
from it.
-/

set_option autoImplicit false

namespace NodeAccess

namespace Guid

/-- Five groups of eight, four, four, four and twelve digits with hyphens between, and the values of
their digits. -/
inductive Grouped : List Char → List (Fin 16) → Prop where
  | mk {a b c d e : List Char} {ds : List (Fin 16)} :
      a.length = 8 → b.length = 4 → c.length = 4 → d.length = 4 → e.length = 12 →
      List.Forall₂ Hex.IsDigit (a ++ (b ++ (c ++ (d ++ e)))) ds →
      Grouped (a ++ '-' :: (b ++ '-' :: (c ++ '-' :: (d ++ '-' :: e)))) ds

/-- The four forms of an identifier. -/
inductive Spells (IsMarker : List Char → Prop) : List Char → Guid → Prop where
  | digits {cs : List Char} {g : Guid} :
      List.Forall₂ Hex.IsDigit cs g.digits → Spells IsMarker cs g
  | groups {cs : List Char} {g : Guid} : Grouped cs g.digits → Spells IsMarker cs g
  | braces {cs : List Char} {g : Guid} :
      Grouped cs g.digits → Spells IsMarker ('{' :: (cs ++ ['}'])) g
  | marked {mark cs : List Char} {g : Guid} :
      IsMarker mark → Grouped cs g.digits → Spells IsMarker (mark ++ cs) g

/-- The marker as it is usually written. -/
def LowerMarker (mark : List Char) : Prop :=
  mark = "urn:uuid:".toList

/-- The marker with letters of either case. -/
def AnyMarker (mark : List Char) : Prop :=
  LowerMarker (mark.map Char.toLower)

instance (mark : List Char) : Decidable (LowerMarker mark) :=
  inferInstanceAs (Decidable (_ = _))

instance (mark : List Char) : Decidable (AnyMarker mark) :=
  inferInstanceAs (Decidable (LowerMarker _))

/-! ## Groups -/

/-- A group and the hyphen behind it are taken off the front. -/
theorem ungroup?_cons_eq_some_iff (w w' : Nat) (ws : List Nat) (cs text : List Char) :
    ungroup? (w :: w' :: ws) cs = some text ↔
      ∃ front rest text', cs = front ++ '-' :: rest ∧ front.length = w ∧
        ungroup? (w' :: ws) rest = some text' ∧ text = front ++ text' := by
  rw [ungroup?.eq_3 cs w (w' :: ws) (List.cons_ne_nil w' ws)]
  constructor
  · intro h
    split at h
    · rename_i rest hdrop
      obtain ⟨text', htext', rfl⟩ := Option.map_eq_some_iff.mp h
      have hlength : w < cs.length := by
        have hrest := congrArg List.length hdrop
        simp only [List.length_drop, List.length_cons] at hrest
        omega
      refine ⟨cs.take w, rest, text', ?_, ?_, htext', rfl⟩
      · rw [← hdrop, List.take_append_drop]
      · rw [List.length_take]
        omega
    · cases h
  · rintro ⟨front, rest, text', rfl, hfront, htext', rfl⟩
    simp [List.drop_left' hfront, List.take_left' hfront, htext']

theorem ungroup?_singleton_eq_some_iff (w : Nat) (cs text : List Char) :
    ungroup? [w] cs = some text ↔ cs.length = w ∧ text = cs := by
  simp only [ungroup?]
  split <;> simp_all [eq_comm]

theorem grouped_iff (cs : List Char) (ds : List (Fin 16)) :
    Grouped cs ds ↔ ∃ text, ungroup? widths cs = some text ∧ Hex.digits? text = some ds := by
  simp only [widths, ungroup?_cons_eq_some_iff, ungroup?_singleton_eq_some_iff,
    Hex.digits?_eq_some_iff]
  constructor
  · rintro ⟨ha, hb, hc, hd, he, hds⟩
    exact ⟨_, ⟨_, _, _, rfl, ha, ⟨_, _, _, rfl, hb, ⟨_, _, _, rfl, hc,
      ⟨_, _, _, rfl, hd, ⟨he, rfl⟩, rfl⟩, rfl⟩, rfl⟩, rfl⟩, hds⟩
  · rintro ⟨_, ⟨a, _, _, rfl, ha, ⟨b, _, _, rfl, hb, ⟨c, _, _, rfl, hc,
      ⟨d, e, _, rfl, hd, ⟨he, rfl⟩, rfl⟩, rfl⟩, rfl⟩, rfl⟩, hds⟩
    exact .mk ha hb hc hd he hds

theorem Grouped.length_eq {cs : List Char} {ds : List (Fin 16)} (h : Grouped cs ds) :
    cs.length = 36 := by
  obtain ⟨ha, hb, hc, hd, he, -⟩ := h
  simp only [List.length_append, List.length_cons]
  omega

theorem Grouped.exists_eq_cons {cs : List Char} {ds : List (Fin 16)} (h : Grouped cs ds) :
    ∃ c v rest, cs = c :: rest ∧ Hex.IsDigit c v := by
  obtain ⟨ha, -, -, -, -, hds⟩ := h
  rename_i a b c d e
  cases a with
  | nil => contradiction
  | cons first a =>
    cases hds with
    | cons hfirst _ => exact ⟨first, _, _, rfl, hfirst⟩

/-! ## The four forms -/

theorem ne_of_isDigit {c : Char} {v : Fin 16} (h : Hex.IsDigit c v) :
    c ≠ '{' ∧ c.toLower ≠ 'u' :=
  h.of_forall (P := fun c _ => c ≠ '{' ∧ c.toLower ≠ 'u') (by decide) (by decide)

/-- The digits of a text in one of the four forms are those of the identifier that it spells. -/
theorem read?_eq_some_iff_digits (cs : List Char) (g : Guid) :
    read? cs = some g ↔
      ∃ text, digitText? cs = some text ∧ Hex.digits? text = some g.digits := by
  unfold read?
  constructor
  · intro h
    split at h
    · rename_i text htext
      split at h
      · rename_i ds hds
        unfold ofDigits? at h
        split at h
        · cases h
          exact ⟨text, htext, hds⟩
        · cases h
      · cases h
    · cases h
  · rintro ⟨text, htext, hds⟩
    simp only [htext, hds, ofDigits?, dif_pos g.length_digits]

theorem digitText?_braces {cs : List Char} (h : cs.length = 36) :
    digitText? ('{' :: (cs ++ ['}'])) = ungroup? widths cs := by
  have hlength : ('{' :: (cs ++ ['}'])).length ≠ 32 := by simp [h]
  simp only [digitText?, if_neg hlength, List.getLast?_concat, if_pos, List.dropLast_concat]

/-- A text that neither is as long as the digits nor begins with a brace is read as what stands
behind the marker, if it has one. -/
theorem digitText?_cons {c : Char} {cs : List Char} (hlength : (c :: cs).length ≠ 32)
    (hc : c ≠ '{') :
    digitText? (c :: cs) =
      if AnyMarker ((c :: cs).take 9) then ungroup? widths ((c :: cs).drop 9)
      else ungroup? widths (c :: cs) := by
  unfold digitText?
  rw [if_neg hlength]
  split
  · rename_i h
    cases h
    contradiction
  · rfl

theorem spells_of_read? {cs : List Char} {g : Guid} (h : read? cs = some g) :
    Spells AnyMarker cs g := by
  obtain ⟨text, htext, hds⟩ := (read?_eq_some_iff_digits cs g).mp h
  unfold digitText? at htext
  split at htext
  · cases htext
    exact .digits ((Hex.digits?_eq_some_iff _ _).mp hds)
  · split at htext
    · rename_i rest _
      split at htext
      · rename_i hlast
        have hrest : rest = rest.dropLast ++ ['}'] := by
          obtain ⟨front, rfl⟩ := List.getLast?_eq_some_iff.mp hlast
          rw [List.dropLast_concat]
        rw [hrest]
        exact .braces ((grouped_iff _ _).mpr ⟨text, htext, hds⟩)
      · cases htext
    · split at htext
      · rename_i hmark
        rw [← List.take_append_drop 9 cs]
        exact .marked hmark ((grouped_iff _ _).mpr ⟨text, htext, hds⟩)
      · exact .groups ((grouped_iff _ _).mpr ⟨text, htext, hds⟩)

theorem Spells.read?_eq {cs : List Char} {g : Guid} (h : Spells AnyMarker cs g) :
    read? cs = some g := by
  rw [read?_eq_some_iff_digits]
  cases h with
  | digits hds =>
    have hlength : cs.length = 32 := by rw [hds.length_eq, g.length_digits]
    exact ⟨cs, if_pos hlength, (Hex.digits?_eq_some_iff _ _).mpr hds⟩
  | groups hgroups =>
    obtain ⟨text, htext, hds⟩ := (grouped_iff _ _).mp hgroups
    have hlength := hgroups.length_eq
    obtain ⟨c, v, rest, rfl, hc⟩ := hgroups.exists_eq_cons
    obtain ⟨hbrace, hlower⟩ := ne_of_isDigit hc
    have hmark : ¬ AnyMarker ((c :: rest).take 9) := by
      intro h
      exact hlower (List.head_eq_of_cons_eq h)
    refine ⟨text, ?_, hds⟩
    rw [digitText?_cons (by omega) hbrace, if_neg hmark]
    exact htext
  | braces hgroups =>
    obtain ⟨text, htext, hds⟩ := (grouped_iff _ _).mp hgroups
    refine ⟨text, ?_, hds⟩
    rw [digitText?_braces hgroups.length_eq]
    exact htext
  | @marked mark cs _ hmark hgroups =>
    obtain ⟨text, htext, hds⟩ := (grouped_iff _ _).mp hgroups
    have hnine : mark.length = 9 := by simpa using congrArg List.length hmark
    have hlength := hgroups.length_eq
    refine ⟨text, ?_, hds⟩
    cases mark with
    | nil => contradiction
    | cons c mark =>
      have hbrace : c ≠ '{' := by
        rintro rfl
        cases List.head_eq_of_cons_eq hmark
      have htake : (c :: mark ++ cs).take 9 = c :: mark := List.take_left' hnine
      have hdrop : (c :: mark ++ cs).drop 9 = cs := List.drop_left' hnine
      rw [List.cons_append] at htake hdrop ⊢
      rw [digitText?_cons (by simp at hnine ⊢; omega) hbrace, htake, hdrop, if_pos hmark]
      exact htext

/-- Globally unique identifiers are read by their grammar. -/
theorem read?_eq_some_iff (cs : List Char) (g : Guid) : read? cs = some g ↔ Spells AnyMarker cs g :=
  ⟨spells_of_read?, Spells.read?_eq⟩

/-- With the marker in lower case only, no form begins with a capital `U`. -/
theorem not_spells_capital (rest : List Char) (g : Guid) :
    ¬ Spells LowerMarker ('U' :: rest) g := by
  have hdigit : ∀ v : Fin 16, ¬ Hex.IsDigit 'U' v := by
    unfold Hex.IsDigit
    decide
  intro h
  generalize hcs : 'U' :: rest = cs at h
  cases h with
  | digits hds =>
    subst hcs
    generalize g.digits = ds at hds
    cases hds with
    | cons hfirst _ => exact hdigit _ hfirst
  | groups hgroups =>
    obtain ⟨c, v, _, rfl, hc⟩ := hgroups.exists_eq_cons
    rw [← List.head_eq_of_cons_eq hcs] at hc
    exact hdigit v hc
  | braces => cases hcs
  | marked hmark =>
    rw [show _ = _ from hmark] at hcs
    cases List.head_eq_of_cons_eq hcs

end Guid

namespace Identifier

/-- A letter, an equals sign, and a body of the kind that the letter tells. -/
inductive Spells (IsMarker : List Char → Prop) : List Char → Identifier → Prop where
  | numeric {body : List Char} {n : Nat} :
      Decimal.Spells 4294967295 body n →
      Spells IsMarker ('i' :: '=' :: body) (.numeric (UInt32.ofNat n))
  | text (s : String) : Spells IsMarker ('s' :: '=' :: s.toList) (.text s)
  | guid {body : List Char} {g : Guid} :
      Guid.Spells IsMarker body g → Spells IsMarker ('g' :: '=' :: body) (.guid g)
  | octets {body : List Char} {bs : List UInt8} :
      Base64.Spells body bs → Spells IsMarker ('b' :: '=' :: body) (.octets bs)

theorem ofBody_eq_ok_iff (kind : IdentifierKind) (body : List Char) (value : Option Identifier)
    (i : Identifier) : ofBody kind body value = .ok i ↔ value = some i := by
  cases value with
  | none => simp [ofBody]
  | some j => simp [ofBody]

/-- Identifiers are read by their grammar. -/
theorem read_eq_ok_iff (whole cs : List Char) (i : Identifier) :
    read whole cs = .ok i ↔ Spells Guid.AnyMarker cs i := by
  constructor
  · intro h
    unfold read at h
    split at h
    · cases h
    · rw [ofBody_eq_ok_iff] at h
      obtain ⟨n, hn, rfl⟩ := Option.map_eq_some_iff.mp h
      exact .numeric ((Decimal.readUpTo?_eq_some_iff _ _ _).mp hn)
    · rename_i body
      cases h
      have htext := @Spells.text Guid.AnyMarker (String.ofList body)
      rwa [String.toList_ofList] at htext
    · rw [ofBody_eq_ok_iff] at h
      obtain ⟨g, hg, rfl⟩ := Option.map_eq_some_iff.mp h
      exact .guid ((Guid.read?_eq_some_iff _ _).mp hg)
    · rw [ofBody_eq_ok_iff] at h
      obtain ⟨bs, hbs, rfl⟩ := Option.map_eq_some_iff.mp h
      exact .octets ((Base64.decode?_eq_some_iff _ _).mp hbs)
    · cases h
  · intro h
    cases h with
    | numeric hn =>
      simp [read, (Decimal.readUpTo?_eq_some_iff _ _ _).mpr hn, ofBody]
    | text s => simp [read]
    | guid hg => simp [read, (Guid.read?_eq_some_iff _ _).mpr hg, ofBody]
    | octets hbs => simp [read, (Base64.decode?_eq_some_iff _ _).mpr hbs, ofBody]

end Identifier

namespace NodeId

/-- An identifier alone, in namespace zero, or behind a namespace and a semicolon. -/
inductive Spells (IsMarker : List Char → Prop) : List Char → NodeId → Prop where
  | plain {body : List Char} {i : Identifier} :
      Identifier.Spells IsMarker body i → Spells IsMarker body ⟨0, i⟩
  | inNamespace {index body : List Char} {n : Nat} {i : Identifier} :
      Decimal.Spells 65535 index n → Identifier.Spells IsMarker body i →
      Spells IsMarker ("ns=".toList ++ index ++ ';' :: body) ⟨UInt16.ofNat n, i⟩

theorem semicolon_not_mem {limit : Nat} {index : List Char} {n : Nat}
    (h : Decimal.Spells limit index n) : ';' ∉ index := by
  have hdigits : ∀ {cs : List Char}, Decimal.Digits cs n → ';' ∉ cs := by
    intro cs hcs hmem
    have := hcs.isDigit_of_mem hmem
    contradiction
  cases h with
  | plain hcs => exact hdigits hcs
  | plus hcs =>
    rw [List.mem_cons]
    rintro (h | h)
    · cases h
    · exact hdigits hcs h

/-- A text is cut where a semicolon joins two parts, the first of which has none. -/
theorem eq_append_of_splitAtSemicolon? {cs before behind : List Char}
    (h : splitAtSemicolon? cs = some (before, behind)) : cs = before ++ ';' :: behind := by
  induction cs generalizing before behind with
  | nil => cases h
  | cons c cs ih =>
    unfold splitAtSemicolon? at h
    split at h
    · rename_i hc
      cases h
      rw [hc, List.nil_append]
    · obtain ⟨⟨front, rest⟩, hsplit, hparts⟩ := Option.map_eq_some_iff.mp h
      cases hparts
      rw [ih hsplit, List.cons_append]

/-- An identifier is not taken for a namespace. -/
theorem readChars_of_spells {body : List Char} {i : Identifier}
    (h : Identifier.Spells Guid.AnyMarker body i) : readChars body = .ok ⟨0, i⟩ := by
  have hread : Identifier.read body body = .ok i := (Identifier.read_eq_ok_iff body body i).mpr h
  have hdispatch : readChars body = (Identifier.read body body).map fun i => ⟨0, i⟩ := by
    cases h <;> rfl
  rw [hdispatch, hread]
  rfl

theorem readChars_eq_ok_iff (cs : List Char) (id : NodeId) :
    readChars cs = .ok id ↔ Spells Guid.AnyMarker cs id := by
  constructor
  · intro h
    unfold readChars at h
    split at h
    · rename_i tail
      split at h
      · cases h
      · rename_i index rest hsplit
        split at h
        · cases h
        · rename_i n hn
          cases hread : Identifier.read ('n' :: 's' :: '=' :: tail) rest with
          | error e =>
            rw [hread] at h
            cases h
          | ok i =>
            rw [hread] at h
            cases h
            rw [eq_append_of_splitAtSemicolon? hsplit]
            exact .inNamespace ((Decimal.readUpTo?_eq_some_iff _ _ _).mp hn)
              ((Identifier.read_eq_ok_iff _ _ _).mp hread)
    · cases hread : Identifier.read cs cs with
      | error e =>
        rw [hread] at h
        cases h
      | ok i =>
        rw [hread] at h
        cases h
        exact .plain ((Identifier.read_eq_ok_iff _ _ _).mp hread)
  · intro h
    cases h with
    | plain hbody => exact readChars_of_spells hbody
    | inNamespace hindex hbody =>
      rw [readChars_cut (semicolon_not_mem hindex),
        (Decimal.readUpTo?_eq_some_iff _ _ _).mpr hindex, Option.elim_some]
      simp only [(Identifier.read_eq_ok_iff _ _ _).mpr hbody, Except.map]

/-- A text is a node identifier exactly if the grammar says so, and then it is the one that the
grammar says; every other text is refused with an error. -/
theorem read_eq_ok_iff_spells (t : String) :
    (∀ id : NodeId, read t = .ok id ↔ Spells Guid.AnyMarker t.toList id) ∧
      ((∃ id : NodeId, Spells Guid.AnyMarker t.toList id) ∨
        ∃ e : NodeIdError, read t = .error e) := by
  have hread : ∀ id : NodeId, read t = .ok id ↔ Spells Guid.AnyMarker t.toList id :=
    readChars_eq_ok_iff t.toList
  refine ⟨hread, ?_⟩
  cases h : read t with
  | ok id => exact .inl ⟨id, (hread id).mp h⟩
  | error e => exact .inr ⟨e, rfl⟩

/-- Zeros in front and a plus sign change nothing. -/
example : read "ns=+00002;i=+0004294967295" = .ok (numeric 2 4294967295) := by rfl

/-- The marker may be written in capitals: with the marker in lower case only, the grammar would
leave out a text that is read. -/
theorem not_spells_lower_marker :
    ∃ id : NodeId, read "g=URN:UUID:72962b91-fa75-4ae6-8d28-b404dc7daf63" = .ok id ∧
      ∀ other : NodeId, ¬ Spells Guid.LowerMarker
        "g=URN:UUID:72962b91-fa75-4ae6-8d28-b404dc7daf63".toList other := by
  refine ⟨⟨0, .guid (Guid.ofNat 0x72962b91fa754ae68d28b404dc7daf63)⟩, by rfl, ?_⟩
  intro other h
  generalize hcs : "g=URN:UUID:72962b91-fa75-4ae6-8d28-b404dc7daf63".toList = cs at h
  cases h with
  | plain hbody =>
    cases hbody with
    | guid hg =>
      rw [← (List.cons.inj (List.cons.inj hcs).2).2] at hg
      exact Guid.not_spells_capital _ _ hg
    | _ => cases List.head_eq_of_cons_eq hcs
  | inNamespace => cases List.head_eq_of_cons_eq hcs

end NodeId

end NodeAccess
