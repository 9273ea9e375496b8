import NodeAccess.Proofs.NodeId.Spelling

/-!
# Which texts name the same node

A text is made of the number of its namespace, the letter for the kind of the identifier and a body.
Two texts name the same node when the first two agree and the bodies are the same for their kind:
numbers by their value, globally unique identifiers by their thirty-two digits, and all others
character by character. For octets this rests on the strictness of the reader, which takes no other
text than the one that is written for them.
-/

set_option autoImplicit false

namespace NodeAccess

namespace Guid

/-- The last thirty-two hexadecimal digits of a text, with small letters. -/
def digitsWithin (cs : List Char) : List Char :=
  let digits := cs.filter fun c => (Hex.value? c).isSome
  (digits.drop (digits.length - 32)).map Char.toLower

theorem filter_of_isDigit {cs : List Char} {ds : List (Fin 16)}
    (h : List.Forall₂ Hex.IsDigit cs ds) : cs.filter (fun c => (Hex.value? c).isSome) = cs := by
  induction h with
  | nil => rfl
  | cons hd _ ih => simp [(Hex.value?_eq_some_iff _ _).mpr hd, ih]

theorem map_toLower_of_isDigit {cs : List Char} {ds : List (Fin 16)}
    (h : List.Forall₂ Hex.IsDigit cs ds) : cs.map Char.toLower = ds.map Hex.digit := by
  have hdigit : ∀ {c : Char} {v : Fin 16}, Hex.IsDigit c v → c.toLower = Hex.digit v := by
    intro c v hc
    exact hc.of_forall (P := fun c v => c.toLower = Hex.digit v) (by decide) (by decide)
  induction h with
  | nil => rfl
  | cons hd _ ih => rw [List.map_cons, List.map_cons, hdigit hd, ih]

/-- Hyphens are no digits, so the digits of groups are what is left without them. -/
theorem Grouped.filter_eq {cs : List Char} {ds : List (Fin 16)} (h : Grouped cs ds) :
    ∃ text, List.Forall₂ Hex.IsDigit text ds ∧
      cs.filter (fun c => (Hex.value? c).isSome) = text := by
  obtain ⟨-, -, -, -, -, hds⟩ := h
  have hhyphen : (Hex.value? '-').isSome = false := by decide
  refine ⟨_, hds, ?_⟩
  rw [← filter_of_isDigit hds]
  simp [hhyphen]

/-- Digits behind whatever else has digits are the last ones. -/
theorem digitsWithin_eq {cs text : List Char} (front : List Char) {g : Guid}
    (htext : List.Forall₂ Hex.IsDigit text g.digits)
    (hfilter : cs.filter (fun c => (Hex.value? c).isSome) = front ++ text) :
    digitsWithin cs = g.digits.map Hex.digit := by
  have hlength : text.length = 32 := by rw [htext.length_eq, g.length_digits]
  have hdrop : (front ++ text).drop ((front ++ text).length - 32) = text := by
    rw [List.length_append, hlength, Nat.add_sub_cancel, List.drop_left]
  rw [digitsWithin, hfilter, hdrop, map_toLower_of_isDigit htext]

/-- In each of the four forms the last thirty-two digits are those of the identifier. -/
theorem Spells.digitsWithin_eq {IsMarker : List Char → Prop} {cs : List Char} {g : Guid}
    (h : Spells IsMarker cs g) : digitsWithin cs = g.digits.map Hex.digit := by
  cases h with
  | digits hds => exact Guid.digitsWithin_eq [] hds (filter_of_isDigit hds)
  | groups hgroups =>
    obtain ⟨text, htext, hfilter⟩ := hgroups.filter_eq
    exact Guid.digitsWithin_eq [] htext hfilter
  | braces hgroups =>
    obtain ⟨text, htext, hfilter⟩ := hgroups.filter_eq
    have hopen : (Hex.value? '{').isSome = false := by decide
    have hclose : (Hex.value? '}').isSome = false := by decide
    refine Guid.digitsWithin_eq [] htext ?_
    simp [hopen, hclose, hfilter]
  | @marked mark cs _ _ hgroups =>
    obtain ⟨text, htext, hfilter⟩ := hgroups.filter_eq
    -- the marker has a digit of its own, which stands before the last thirty-two
    refine Guid.digitsWithin_eq (mark.filter fun c => (Hex.value? c).isSome) htext ?_
    rw [List.filter_append, hfilter]

theorem eq_iff_digitsWithin_eq {IsMarker : List Char → Prop} {cs cs' : List Char} {g g' : Guid}
    (h : Spells IsMarker cs g) (h' : Spells IsMarker cs' g') :
    g = g' ↔ digitsWithin cs = digitsWithin cs' := by
  rw [h.digitsWithin_eq, h'.digitsWithin_eq]
  constructor
  · rintro rfl
    rfl
  · intro hsame
    have hdigits : some g.digits = some g'.digits := by
      rw [← Hex.digits?_map_digit, hsame, Hex.digits?_map_digit]
    obtain ⟨ds, hlength⟩ := g
    cases hdigits
    rfl

end Guid

theorem Base64.encode_inj {octets octets' : List UInt8} :
    encode octets = encode octets' ↔ octets = octets' := by
  constructor
  · intro h
    have hdecode := decode?_encode octets
    rw [h, decode?_encode] at hdecode
    exact (Option.some.inj hdecode).symm
  · rintro rfl
    rfl

namespace Decimal

theorem Spells.eq_of_same {limit n n' : Nat} {cs : List Char} (h : Spells limit cs n)
    (h' : Spells limit cs n') : n = n' := by
  have hread := (readUpTo?_eq_some_iff limit cs n).mpr h
  rw [(readUpTo?_eq_some_iff limit cs n').mpr h'] at hread
  exact (Option.some.inj hread).symm

theorem Spells.le_limit {limit n : Nat} {cs : List Char} (h : Spells limit cs n) : n ≤ limit := by
  cases h with
  | plain _ hn => exact hn
  | plus _ hn => exact hn

theorem spells_render {limit n : Nat} (h : n ≤ limit) : Spells limit (render n) n :=
  (readUpTo?_eq_some_iff limit (render n) n).mp (readUpTo?_render h)

end Decimal

namespace Identifier

/-- A body behind a letter and an equals sign, and the identifier that these stand for. -/
inductive StandsFor : Char → List Char → Identifier → Prop where
  | numeric {body : List Char} {n : Nat} :
      Decimal.Spells 4294967295 body n → StandsFor 'i' body (.numeric (UInt32.ofNat n))
  | text (body : List Char) : StandsFor 's' body (.text (String.ofList body))
  | guid {body : List Char} {g : Guid} :
      Guid.Spells Guid.AnyMarker body g → StandsFor 'g' body (.guid g)
  | octets {body : List Char} {bs : List UInt8} :
      Base64.Spells body bs → StandsFor 'b' body (.octets bs)

/-- Two bodies behind the same letter mean the same: numbers of the same value, the same digits, or
the same characters. -/
def SameBody : Char → List Char → List Char → Prop
  | 'i', body, other =>
    ∃ n, Decimal.Spells 4294967295 body n ∧ Decimal.Spells 4294967295 other n
  | 'g', body, other => Guid.digitsWithin body = Guid.digitsWithin other
  | _, body, other => body = other

theorem standsFor_of_read {whole body : List Char} {letter : Char} {i : Identifier}
    (h : read whole (letter :: '=' :: body) = .ok i) : StandsFor letter body i := by
  have hspells := (read_eq_ok_iff _ _ _).mp h
  generalize hcs : letter :: '=' :: body = cs at hspells
  cases hspells with
  | numeric hn =>
    cases hcs
    exact .numeric hn
  | text s =>
    cases hcs
    have htext := StandsFor.text s.toList
    rwa [String.ofList_toList] at htext
  | guid hg =>
    cases hcs
    exact .guid hg
  | octets hbs =>
    cases hcs
    exact .octets hbs

theorem numeric_eq_iff {n n' : Nat} {body body' : List Char}
    (h : Decimal.Spells 4294967295 body n) (h' : Decimal.Spells 4294967295 body' n') :
    numeric (UInt32.ofNat n) = numeric (UInt32.ofNat n') ↔ SameBody 'i' body body' := by
  constructor
  · intro hsame
    have hnat := congrArg UInt32.toNat (Identifier.numeric.inj hsame)
    have hn := h.le_limit
    have hn' := h'.le_limit
    have hsize : UInt32.size = 4294967296 := rfl
    rw [UInt32.toNat_ofNat_of_lt' (by omega), UInt32.toNat_ofNat_of_lt' (by omega)] at hnat
    subst hnat
    exact ⟨n, h, h'⟩
  · rintro ⟨m, hm, hm'⟩
    rw [h.eq_of_same hm, h'.eq_of_same hm']

/-- Two identifiers are the same just if their letters are and their bodies mean the same. -/
theorem StandsFor.eq_iff {letter letter' : Char} {body body' : List Char} {i i' : Identifier}
    (h : StandsFor letter body i) (h' : StandsFor letter' body' i') :
    i = i' ↔ letter = letter' ∧ SameBody letter body body' := by
  cases h with
  | numeric hn =>
    cases h' with
    | numeric hn' => simp [← numeric_eq_iff hn hn']
    | _ => simp
  | text =>
    cases h' with
    | text => simp [SameBody, String.ofList_inj]
    | _ => simp
  | guid hg =>
    cases h' with
    | guid hg' => simp [Guid.eq_iff_digitsWithin_eq hg hg', SameBody]
    | _ => simp
  | octets hbs =>
    cases h' with
    | octets hbs' => simp [SameBody, ← hbs.encode_eq, ← hbs'.encode_eq, Base64.encode_inj]
    | _ => simp

end Identifier

namespace NodeId

/-- The parts of a text: the number of the namespace, zero where there is none, the letter of the
identifier, and its body. -/
inductive Parts : List Char → Nat → Char → List Char → Prop where
  | plain (letter : Char) (body : List Char) : Parts (letter :: '=' :: body) 0 letter body
  | inNamespace {index : List Char} {n : Nat} (letter : Char) (body : List Char) :
      Decimal.Spells 65535 index n →
      Parts ("ns=".toList ++ index ++ ';' :: letter :: '=' :: body) n letter body

theorem Parts.le_limit {cs body : List Char} {n : Nat} {letter : Char}
    (h : Parts cs n letter body) : n ≤ 65535 := by
  cases h with
  | plain => exact Nat.zero_le _
  | inNamespace _ _ hindex => exact hindex.le_limit

theorem Parts.readChars_eq {cs body : List Char} {n : Nat} {letter : Char}
    (h : Parts cs n letter body) :
    readChars cs =
      (Identifier.read cs (letter :: '=' :: body)).map fun i => ⟨UInt16.ofNat n, i⟩ := by
  cases h with
  | plain =>
    rw [readChars.eq_2]
    · rfl
    · intro tail hcs
      cases hcs
  | inNamespace _ _ hindex =>
    rw [readChars_cut (semicolon_not_mem hindex), (Decimal.readUpTo?_eq_some_iff _ _ _).mpr hindex,
      Option.elim_some]

/-- The parts of a text that is read determine what it names. -/
theorem Parts.standsFor {cs body : List Char} {n : Nat} {letter : Char} {id : NodeId}
    (h : Parts cs n letter body) (hread : readChars cs = .ok id) :
    id.namespaceIndex = UInt16.ofNat n ∧ Identifier.StandsFor letter body id.identifier := by
  rw [h.readChars_eq] at hread
  cases hidentifier : Identifier.read cs (letter :: '=' :: body) with
  | error e =>
    rw [hidentifier] at hread
    cases hread
  | ok i =>
    rw [hidentifier] at hread
    cases hread
    exact ⟨rfl, Identifier.standsFor_of_read hidentifier⟩

theorem exists_parts {cs : List Char} {id : NodeId} (h : readChars cs = .ok id) :
    ∃ (n : Nat) (letter : Char) (body : List Char), Parts cs n letter body := by
  have hparts : ∀ {body : List Char} {i : Identifier},
      Identifier.Spells Guid.AnyMarker body i →
        ∃ (letter : Char) (rest : List Char), body = letter :: '=' :: rest := by
    intro body i hbody
    cases hbody <;> exact ⟨_, _, rfl⟩
  cases (readChars_eq_ok_iff cs id).mp h with
  | plain hbody =>
    obtain ⟨letter, rest, rfl⟩ := hparts hbody
    exact ⟨_, _, _, .plain letter rest⟩
  | inNamespace hindex hbody =>
    obtain ⟨letter, rest, rfl⟩ := hparts hbody
    exact ⟨_, _, _, .inNamespace letter rest hindex⟩

/-- Two texts that are read name the same node just if their parts mean the same. -/
theorem Parts.eq_iff {cs cs' body body' : List Char} {n n' : Nat} {letter letter' : Char}
    {id id' : NodeId} (h : Parts cs n letter body) (h' : Parts cs' n' letter' body')
    (hread : readChars cs = .ok id) (hread' : readChars cs' = .ok id') :
    id = id' ↔ n = n' ∧ letter = letter' ∧ Identifier.SameBody letter body body' := by
  obtain ⟨hns, hstands⟩ := h.standsFor hread
  obtain ⟨hns', hstands'⟩ := h'.standsFor hread'
  have hindex : id.namespaceIndex = id'.namespaceIndex ↔ n = n' := by
    rw [hns, hns']
    constructor
    · intro hsame
      have hnat := congrArg UInt16.toNat hsame
      have hn := h.le_limit
      have hn' := h'.le_limit
      have hsize : UInt16.size = 65536 := rfl
      rwa [UInt16.toNat_ofNat_of_lt' (by omega), UInt16.toNat_ofNat_of_lt' (by omega)] at hnat
    · rintro rfl
      rfl
  rw [← hstands.eq_iff hstands', ← hindex]
  cases id
  cases id'
  simp only [NodeId.mk.injEq]

/-- A text with another spelling of its namespace at most is written for the node that a text with a
body of characters or octets names. -/
theorem Parts.render {cs body : List Char} {n : Nat} {letter : Char} {id : NodeId}
    (h : Parts cs n letter body) (hread : readChars cs = .ok id)
    (hletter : letter = 's' ∨ letter = 'b') : Parts id.render n letter body := by
  obtain ⟨hns, hstands⟩ := h.standsFor hread
  have hn := h.le_limit
  have hsize : UInt16.size = 65536 := rfl
  have hidentifier : id.identifier.render = letter :: '=' :: body := by
    generalize id.identifier = i at hstands
    cases hstands with
    | numeric => simp at hletter
    | text => rw [Identifier.render, String.toList_ofList]
    | guid => simp at hletter
    | octets hbs => rw [Identifier.render, hbs.encode_eq]
  have hindex : id.namespaceIndex.toNat = n := by
    rw [hns, UInt16.toNat_ofNat_of_lt' (by omega)]
  unfold NodeId.render
  rw [hidentifier]
  by_cases hzero : id.namespaceIndex = 0
  · rw [if_pos hzero]
    have hnone : n = 0 := by
      rw [← hindex, hzero]
      rfl
    rw [hnone]
    exact .plain letter body
  · rw [if_neg hzero, hindex]
    exact .inNamespace letter body (Decimal.spells_render hn)

/-- A node has no spellings but those that mean the same part by part. The text that is written for
the node is read as the same node and is written for it again, and the body of a text or of octets
stays in it as it is, character by character. Two texts name the same node just if they have the
same number of a namespace, the same letter, and bodies that mean the same: equal numbers behind
`i=`, the same thirty-two digits behind `g=`, the same characters behind `s=` and `b=`. -/
theorem same_node_iff_same_parts {t : String} {id : NodeId} (h : read t = .ok id) :
    read id.toText = .ok id ∧
      (∀ again : NodeId, read id.toText = .ok again → again.toText = id.toText) ∧
      (∃ (n : Nat) (letter : Char) (body : List Char), Parts t.toList n letter body) ∧
      ∀ (n : Nat) (letter : Char) (body : List Char), Parts t.toList n letter body →
        (letter = 's' ∨ letter = 'b' → Parts id.toText.toList n letter body) ∧
          ∀ (u : String) (other : NodeId) (n' : Nat) (letter' : Char) (body' : List Char),
            read u = .ok other → Parts u.toList n' letter' body' →
              (id = other ↔
                n = n' ∧ letter = letter' ∧ Identifier.SameBody letter body body') := by
  have hagain : read id.toText = .ok id := by
    rw [read, toText, String.toList_ofList, readChars_render]
  refine ⟨hagain, ?_, exists_parts h, ?_⟩
  · intro again hother
    rw [hagain] at hother
    cases hother
    rfl
  · intro n letter body hparts
    refine ⟨?_, ?_⟩
    · intro hletter
      rw [toText, String.toList_ofList]
      exact hparts.render h hletter
    · intro u other n' letter' body' hu hparts'
      exact hparts.eq_iff hparts' h hu

/-- Braces and capitals make no other node of the same digits, nor do a plus sign and a zero of the
same namespace, while a capital makes another node of a text. -/
theorem same_node_iff_same_parts_spellings :
    ∃ braced marked large small : NodeId,
      read "g={72962B91-FA75-4AE6-8D28-B404DC7DAF63}" = .ok braced ∧
        read "g=urn:uuid:72962b91-fa75-4ae6-8d28-b404dc7daf63" = .ok marked ∧
        braced = marked ∧
        read "ns=+07;s=Pump" = .ok large ∧ read "ns=7;s=pump" = .ok small ∧ large ≠ small := by
  have hguid : ∀ body : String, Parts ("g=" ++ body).toList 0 'g' body.toList := by
    intro body
    rw [String.toList_append]
    exact .plain 'g' body.toList
  have hseven : ∀ index body : String, Decimal.readUpTo? 65535 index.toList = some 7 →
      Parts ("ns=" ++ index ++ ";s=" ++ body).toList 7 's' body.toList := by
    intro index body hindex
    simp only [String.toList_append, List.append_assoc]
    exact .inNamespace 's' body.toList ((Decimal.readUpTo?_eq_some_iff _ _ _).mp hindex)
  have hbraced := hguid "{72962B91-FA75-4AE6-8D28-B404DC7DAF63}"
  have hmarked := hguid "urn:uuid:72962b91-fa75-4ae6-8d28-b404dc7daf63"
  have hlarge := hseven "+07" "Pump" rfl
  have hsmall := hseven "7" "pump" rfl
  have hdigits : Guid.digitsWithin "{72962B91-FA75-4AE6-8D28-B404DC7DAF63}".toList =
      Guid.digitsWithin "urn:uuid:72962b91-fa75-4ae6-8d28-b404dc7daf63".toList := by decide
  obtain ⟨braced, hreadBraced⟩ :
      ∃ id, read "g={72962B91-FA75-4AE6-8D28-B404DC7DAF63}" = .ok id := ⟨_, rfl⟩
  obtain ⟨marked, hreadMarked⟩ :
      ∃ id, read "g=urn:uuid:72962b91-fa75-4ae6-8d28-b404dc7daf63" = .ok id := ⟨_, rfl⟩
  obtain ⟨large, hreadLarge⟩ : ∃ id, read "ns=+07;s=Pump" = .ok id := ⟨_, rfl⟩
  obtain ⟨small, hreadSmall⟩ : ∃ id, read "ns=7;s=pump" = .ok id := ⟨_, rfl⟩
  have hsame := ((same_node_iff_same_parts hreadBraced).2.2.2 _ _ _ hbraced).2 _ _ _ _ _
    hreadMarked hmarked
  have hother := ((same_node_iff_same_parts hreadLarge).2.2.2 _ _ _ hlarge).2 _ _ _ _ _
    hreadSmall hsmall
  refine ⟨braced, marked, large, small, hreadBraced, hreadMarked, ?_, hreadLarge, hreadSmall, ?_⟩
  · exact hsame.mpr ⟨rfl, rfl, hdigits⟩
  · intro h
    cases (hother.mp h).2.2

end NodeId

end NodeAccess
