import NodeAccess.Proofs.Number.Spelling
import NodeAccess.Settings.Environment

/-!
# Texts in environment variables

The value of a variable is taken for a truth value, for a number or for a text, and a setting that
is a text then has the text of that. So a text arrives as it is unless it reads as something else:
numbers lose signs, zeros and exponents that they are not written with, and truth values their
capitals. A text with a colon, such as that of every URI, reads as nothing else.
-/

set_option autoImplicit false

namespace NodeAccess

/-- A character of ASCII that is no capital is still there in lower case. -/
theorem Text.mem_lower {c : Char} (hascii : c.toNat < 0x80) (hupper : c.isUpper = false)
    {cs : List Char} (hc : c ∈ cs) : c ∈ lower cs := by
  have hne : c ≠ '\u0130' := by
    rintro rfl
    exact absurd hascii (by decide)
  refine List.mem_flatMap.mpr ⟨c, hc, ?_⟩
  rw [if_neg hne, lowerChar_ascii c hascii, toLower_eq_self hupper]
  exact List.mem_singleton_self c

theorem Text.allBlank_eq_false_iff (text : String) :
    allBlank text = false ↔ ∃ c ∈ text.toList, isBlank c = false := by
  simp [allBlank]

theorem Decimal.isUpper_eq_false_of_isDigit {c : Char} (h : c.isDigit = true) :
    c.isUpper = false := by
  have hrange := toNat_of_isDigit h
  apply decide_eq_false
  rintro ⟨hcapital, -⟩
  have hlow : 65 ≤ c.toNat := UInt32.le_iff_toNat_le.mp hcapital
  omega

/-! ## Marks -/

/-- The character is one of ASCII with which neither words nor numbers are written. -/
structure IsMark (c : Char) : Prop where
  ascii : c.toNat < 0x80
  notInNumbers : ¬ Binary.IsNumberChar c

namespace IsMark

variable {c : Char} {cs : List Char}

theorem isAlphanum_eq_false (h : IsMark c) : c.isAlphanum = false :=
  Bool.eq_false_iff.mpr fun halphanum => h.notInNumbers (.inl halphanum)

theorem isUpper_eq_false (h : IsMark c) : c.isUpper = false := by
  have hletter : c.isAlpha = false := (Bool.or_eq_false_iff.mp h.isAlphanum_eq_false).1
  exact (Bool.or_eq_false_iff.mp hletter).1

/-- A text with a mark is no word, in whatever case. -/
theorem lower_ne (h : IsMark c) (hc : c ∈ cs) {word : List Char}
    (hword : word.all Char.isAlphanum = true) : Text.lower cs ≠ word := by
  rintro rfl
  have halphanum := List.all_eq_true.mp hword c (Text.mem_lower h.ascii h.isUpper_eq_false hc)
  rw [h.isAlphanum_eq_false] at halphanum
  contradiction

theorem not_spellsNumber (h : IsMark c) (hc : c ∈ cs) : ¬ Binary.SpellsNumber cs :=
  fun hnumber => h.notInNumbers (hnumber.isNumberChar hc)

end IsMark

/-! ## What a value arrives as -/

namespace Environment

/-- The text that arrives where the value of a variable is a setting: that of the truth value, the
integer of 64 bits or the number that the value reads as, and else the value as it is. -/
inductive ArrivesAs (value : String) : String → Prop
  | truth (b : Bool) (h : Text.lower value.toList = (toString b).toList) :
      ArrivesAs value (toString b)
  | integer {i : Int} (hno : ∀ b : Bool, Text.lower value.toList ≠ (toString b).toList)
      (h : Decimal.SpellsInt value.toList i)
      (hwithin : Int64.minValue.toInt ≤ i ∧ i ≤ Int64.maxValue.toInt) :
      ArrivesAs value (String.ofList (Decimal.renderInt i))
  | number {x : Binary64} (hno : ∀ b : Bool, Text.lower value.toList ≠ (toString b).toList)
      (hwide : ∀ i, Decimal.SpellsInt value.toList i →
        ¬ (Int64.minValue.toInt ≤ i ∧ i ≤ Int64.maxValue.toInt))
      (h : Binary.read? value.toList = some x) : ArrivesAs value (x.render .text)
  | verbatim (hno : ∀ b : Bool, Text.lower value.toList ≠ (toString b).toList)
      (h : ¬ Binary.SpellsNumber value.toList) : ArrivesAs value value

variable {value text : String}

theorem exists_arrivesAs (value : String) :
    ∃ text, Tree.lenient.text? (Tree.ofVariable value) = some text ∧ ArrivesAs value text := by
  unfold Tree.ofVariable
  dsimp only
  split
  · rename_i htrue
    exact ⟨_, rfl, .truth true htrue⟩
  · rename_i htrue
    split
    · rename_i hfalse
      exact ⟨_, rfl, .truth false hfalse⟩
    · rename_i hfalse
      have hno : ∀ b : Bool, Text.lower value.toList ≠ (toString b).toList := by
        rintro (_ | _)
        · exact hfalse
        · exact htrue
      split
      · rename_i i hi
        obtain ⟨hi, hwithin⟩ := Option.filter_eq_some_iff.mp hi
        exact ⟨_, rfl, .integer hno ((Decimal.readInt?_eq_some_iff _ i).mp hi)
          (by simpa using hwithin)⟩
      · rename_i hnone
        have hwide : ∀ i, Decimal.SpellsInt value.toList i →
            ¬ (Int64.minValue.toInt ≤ i ∧ i ≤ Int64.maxValue.toInt) := by
          intro i hi
          simpa [(Decimal.readInt?_eq_some_iff _ i).mpr hi] using hnone
        split
        · rename_i x hx
          exact ⟨_, rfl, .number hno hwide hx⟩
        · rename_i hx
          refine ⟨_, rfl, .verbatim hno ?_⟩
          intro hnumber
          obtain ⟨x, hx'⟩ := (Binary.exists_read?_iff (f := .double) _).mpr hnumber
          exact absurd (hx'.symm.trans hx) nofun

/-- One text arrives for each value. -/
theorem ArrivesAs.unique {text' : String} (h : ArrivesAs value text) (h' : ArrivesAs value text') :
    text = text' := by
  -- each reading is tried only where those before it have failed
  cases h with
  | truth b h =>
    cases h' with
    | truth b' h' => exact String.toList_injective (h.symm.trans h')
    | integer hno => exact absurd h (hno b)
    | number hno => exact absurd h (hno b)
    | verbatim hno => exact absurd h (hno b)
  | integer hno h hwithin =>
    cases h' with
    | truth b h' => exact absurd h' (hno b)
    | integer _ h' => rw [h.unique h']
    | number _ hwide => exact absurd hwithin (hwide _ h)
    | verbatim _ hnone => exact absurd (Binary.spellsNumber_of_spellsInt h) hnone
  | number hno hwide hx =>
    cases h' with
    | truth b h' => exact absurd h' (hno b)
    | integer _ h' hwithin => exact absurd hwithin (hwide _ h')
    | number _ _ hx' => rw [Option.some.inj (hx.symm.trans hx')]
    | verbatim _ hnone => exact absurd ((Binary.exists_read?_iff _).mp ⟨_, hx⟩) hnone
  | verbatim hno hnone =>
    cases h' with
    | truth b h' => exact absurd h' (hno b)
    | integer _ h' => exact absurd (Binary.spellsNumber_of_spellsInt h') hnone
    | number _ _ hx' => exact absurd ((Binary.exists_read?_iff _).mp ⟨_, hx'⟩) hnone
    | verbatim => rfl

/-- A text with a mark arrives as it is. -/
theorem arrivesAs_of_isMark {c : Char} (h : IsMark c) (hc : c ∈ value.toList) :
    ArrivesAs value value := by
  refine .verbatim ?_ (h.not_spellsNumber hc)
  intro b
  apply h.lower_ne hc
  cases b <;> decide

/-- An integer of 64 bits that is written plainly arrives as it is. -/
theorem arrivesAs_renderInt {i : Int}
    (h : Int64.minValue.toInt ≤ i ∧ i ≤ Int64.maxValue.toInt) :
    ArrivesAs (String.ofList (Decimal.renderInt i)) (String.ofList (Decimal.renderInt i)) := by
  refine .integer ?_ ?_ h
  · intro b hb
    obtain ⟨c, hc, hdigit⟩ := Decimal.exists_isDigit_renderInt i
    have hascii : c.toNat < 0x80 := by
      have hrange := Decimal.toNat_of_isDigit hdigit
      omega
    -- a digit is still there in lower case, and no truth value has one
    have hlower := Text.mem_lower hascii (Decimal.isUpper_eq_false_of_isDigit hdigit) hc
    rw [String.toList_ofList] at hb
    rw [hb] at hlower
    have hletters : (toString b).toList.all (fun d => !d.isDigit) = true := by
      cases b <;> rfl
    have hletter := List.all_eq_true.mp hletters c hlower
    rw [hdigit] at hletter
    contradiction
  · rw [String.toList_ofList]
    exact (Decimal.readInt?_eq_some_iff _ i).mp (Decimal.readInt?_renderInt i)

/-! ## What arrives is not blank -/

theorem allBlank_render (style : FloatStyle) (x : Binary64) :
    Text.allBlank (x.render style) = false := by
  unfold Binary.render
  split
  · rename_i n _
    obtain ⟨c, hc, hdigit⟩ := Decimal.exists_isDigit_render n.whole
    refine (Text.allBlank_eq_false_iff _).mpr ⟨c, ?_, Text.isBlank_eq_false_of_isDigit hdigit⟩
    rw [String.toList_ofList, Numeral.render]
    simp [hc]
  · split
    · decide
    · split <;> decide

/-- Something arrives for every value that is not blank. -/
theorem ArrivesAs.allBlank_eq_false (h : ArrivesAs value text)
    (hvalue : Text.allBlank value = false) : Text.allBlank text = false := by
  cases h with
  | truth b h => cases b <;> decide
  | integer hno h hwithin =>
    obtain ⟨c, hc, hdigit⟩ := Decimal.exists_isDigit_renderInt _
    refine (Text.allBlank_eq_false_iff _).mpr ⟨c, ?_, Text.isBlank_eq_false_of_isDigit hdigit⟩
    rw [String.toList_ofList]
    exact hc
  | number hno hwide h => exact allBlank_render _ _
  | verbatim hno h => exact hvalue

end Environment

end NodeAccess
