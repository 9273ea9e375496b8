import NodeAccess.Number.Reading
import NodeAccess.Proofs.Text.Spelling

/-!
# What binary numbers look like

A number is a name or digits, alone or behind a sign. The digits may have one point among them, in
front or at the end too, and an exponent behind them. The reader takes what this grammar describes
and nothing else; integers are a part of it.
-/

set_option autoImplicit false

namespace NodeAccess

theorem toLower_eq_self {c : Char} (h : c.isUpper = false) : c.toLower = c :=
  dif_neg (of_decide_eq_false h)

namespace Binary

variable {f : BinaryFormat}

/-- An exponent: nothing, or the letter for it and an integer. -/
inductive SpellsExponent : List Char → Prop where
  | none : SpellsExponent []
  | letter {c : Char} {cs : List Char} {i : Int} :
      c = 'e' ∨ c = 'E' → Decimal.SpellsInt cs i → SpellsExponent (c :: cs)

/-- Digits with at most one point, and an exponent. -/
inductive SpellsDigits : List Char → Prop where
  | whole {ds e : List Char} : ds ≠ [] → (∀ c ∈ ds, c.isDigit = true) → SpellsExponent e →
      SpellsDigits (ds ++ e)
  | point {ds fs e : List Char} : ds ≠ [] ∨ fs ≠ [] → (∀ c ∈ ds, c.isDigit = true) →
      (∀ c ∈ fs, c.isDigit = true) → SpellsExponent e → SpellsDigits (ds ++ '.' :: (fs ++ e))

/-- What may stand in front of a number. -/
def signs : List (List Char) := [[], ['+'], ['-']]

/-- The names of what is no finite number. -/
def names : List (List Char) := ["inf".toList, "infinity".toList, "nan".toList]

/-- A number: a name in any case, or digits, alone or behind a sign. -/
inductive SpellsNumber : List Char → Prop where
  | name {sign cs : List Char} : sign ∈ signs → cs.map Char.toLower ∈ names →
      SpellsNumber (sign ++ cs)
  | digits {sign cs : List Char} : sign ∈ signs → SpellsDigits cs → SpellsNumber (sign ++ cs)

/-! ## Digits -/

theorem exists_readExponent?_iff (cs : List Char) :
    (∃ e, readExponent? cs = some e) ↔ SpellsExponent cs := by
  constructor
  · rintro ⟨e, he⟩
    cases cs with
    | nil => exact .none
    | cons c cs =>
      rw [readExponent?] at he
      split at he
      · rename_i hc
        exact .letter (by simpa using hc) ((Decimal.readInt?_eq_some_iff _ _).mp he)
      · contradiction
  · intro h
    cases h with
    | none => exact ⟨0, rfl⟩
    | letter hc hi =>
      rw [readExponent?, if_pos (by simpa using hc)]
      exact ⟨_, (Decimal.readInt?_eq_some_iff _ _).mpr hi⟩

/-- An exponent goes on neither with the digits nor with a point. -/
theorem SpellsExponent.head?_eq {e : List Char} (h : SpellsExponent e) {c : Char}
    (hc : c ∈ e.head?) : c = 'e' ∨ c = 'E' := by
  cases h with
  | none => contradiction
  | letter hletter => exact Option.some.inj hc ▸ hletter

theorem SpellsExponent.startsApart {e : List Char} (h : SpellsExponent e) :
    Decimal.StartsApart e := by
  intro c hc
  obtain rfl | rfl := h.head?_eq hc <;> decide

theorem readDigits?_of_point {negative : Bool} {cs ds more fs rest : List Char}
    (hcs : Decimal.spanDigits cs = (ds, '.' :: more)) (hmore : Decimal.spanDigits more = (fs, rest)) :
    (∃ x : Binary f, readDigits? negative cs = some x) ↔
      (ds ≠ [] ∨ fs ≠ []) ∧ SpellsExponent rest := by
  rw [← exists_readExponent?_iff]
  simp only [readDigits?, hcs, hmore]
  cases ds <;> cases fs <;> simp

theorem readDigits?_of_no_point {negative : Bool} {cs ds rest : List Char}
    (hcs : Decimal.spanDigits cs = (ds, rest)) (hrest : ∀ more, rest ≠ '.' :: more) :
    (∃ x : Binary f, readDigits? negative cs = some x) ↔ ds ≠ [] ∧ SpellsExponent rest := by
  rw [← exists_readExponent?_iff]
  unfold readDigits?
  rw [hcs]
  dsimp only
  split
  · exact absurd rfl (hrest _)
  · cases ds <;> simp

theorem isDigit_of_mem_spanDigits {cs : List Char} {c : Char}
    (hc : c ∈ (Decimal.spanDigits cs).1) : c.isDigit = true :=
  List.all_eq_true.mp List.all_takeWhile c hc

theorem spanDigits_append_eq (cs : List Char) :
    (Decimal.spanDigits cs).1 ++ (Decimal.spanDigits cs).2 = cs :=
  List.takeWhile_append_dropWhile

theorem exists_readDigits?_iff (negative : Bool) (cs : List Char) :
    (∃ x : Binary f, readDigits? negative cs = some x) ↔ SpellsDigits cs := by
  constructor
  · intro h
    -- the digits in front are cut off, then those behind a point if one follows
    have hcs := spanDigits_append_eq cs
    have hds : ∀ c ∈ (Decimal.spanDigits cs).1, c.isDigit = true :=
      fun _ => isDigit_of_mem_spanDigits
    by_cases hpoint : ∃ more, (Decimal.spanDigits cs).2 = '.' :: more
    · obtain ⟨more, hmore⟩ := hpoint
      obtain ⟨hsome, he⟩ := (readDigits?_of_point (Prod.ext rfl hmore) rfl).mp h
      rw [← hcs, hmore, ← spanDigits_append_eq more]
      exact .point hsome hds (fun _ => isDigit_of_mem_spanDigits) he
    · obtain ⟨hsome, he⟩ := (readDigits?_of_no_point rfl (not_exists.mp hpoint)).mp h
      rw [← hcs]
      exact .whole hsome hds he
  · intro h
    cases h with
    | @whole ds e hsome hds he =>
      refine (readDigits?_of_no_point (Decimal.spanDigits_append hds he.startsApart) ?_).mpr
        ⟨hsome, he⟩
      rintro more rfl
      obtain h | h := he.head?_eq rfl <;> contradiction
    | @point ds fs e hsome hds hfs he =>
      exact (readDigits?_of_point
        (Decimal.spanDigits_append hds (Decimal.startsApart_cons (by decide) _))
        (Decimal.spanDigits_append hfs he.startsApart)).mpr ⟨hsome, he⟩

/-! ## Signs and names -/

theorem exists_sign (cs : List Char) : ∃ sign ∈ signs, cs = sign ++ (splitSign cs).2 := by
  unfold splitSign
  split
  · exact ⟨['-'], by decide, rfl⟩
  · exact ⟨['+'], by decide, rfl⟩
  · exact ⟨[], by decide, rfl⟩

/-- A sign is taken off in front of what has none. -/
theorem splitSign_append {sign cs : List Char} (hsign : sign ∈ signs)
    (hcs : ∀ c ∈ cs.head?, c ≠ '+' ∧ c ≠ '-') : (splitSign (sign ++ cs)).2 = cs := by
  simp only [signs, List.mem_cons, List.not_mem_nil, or_false] at hsign
  obtain rfl | rfl | rfl := hsign
  · have hminus : ∀ rest, cs ≠ '-' :: rest := by
      rintro rest rfl
      exact (hcs _ rfl).2 rfl
    have hplus : ∀ rest, cs ≠ '+' :: rest := by
      rintro rest rfl
      exact (hcs _ rfl).1 rfl
    rw [List.nil_append, splitSign.eq_3 cs hminus hplus]
  · rfl
  · rfl

theorem mem_names_iff (name : List Char) :
    name ∈ names ↔ (name = "inf".toList ∨ name = "infinity".toList) ∨ name = "nan".toList := by
  simp only [names, List.mem_cons, List.not_mem_nil, or_false, or_assoc]

theorem exists_read?_iff_splitSign (cs : List Char) :
    (∃ x : Binary f, read? cs = some x) ↔
      (splitSign cs).2.map Char.toLower ∈ names ∨ SpellsDigits (splitSign cs).2 := by
  rw [← exists_readDigits?_iff (f := f) (splitSign cs).1, mem_names_iff]
  unfold read?
  dsimp only
  split
  · rename_i hinfinite
    exact iff_of_true ⟨_, rfl⟩ (.inl (.inl hinfinite))
  · rename_i hfinite
    split
    · rename_i hnan
      exact iff_of_true ⟨_, rfl⟩ (.inl (.inr hnan))
    · rename_i hnan
      exact (or_iff_right (not_or_intro hfinite hnan)).symm

theorem isAlpha_of_mem_names {name : List Char} (h : name ∈ names) {c : Char} (hc : c ∈ name) :
    c.isAlpha = true := by
  have hall : names.all (fun name => name.all Char.isAlpha) = true := by decide
  exact List.all_eq_true.mp (List.all_eq_true.mp hall name h) c hc

/-- Neither a name nor digits begin with a sign. -/
theorem head?_ne_sign {cs : List Char} (h : cs.map Char.toLower ∈ names ∨ SpellsDigits cs) :
    ∀ c ∈ cs.head?, c ≠ '+' ∧ c ≠ '-' := by
  intro c hc
  obtain hname | hdigits := h
  · have hmem : c.toLower ∈ cs.map Char.toLower :=
      List.mem_map_of_mem (List.mem_of_mem_head? hc)
    have halpha := isAlpha_of_mem_names hname hmem
    constructor <;> rintro rfl <;> contradiction
  · -- there is a digit on one side of a point at least, so digits begin with either
    have hfirst : c.isDigit = true ∨ c = '.' := by
      cases hdigits with
      | @whole ds e hsome hds =>
        cases ds with
        | nil => contradiction
        | cons d ds => exact .inl (hds c (List.mem_cons.mpr (.inl (Option.some.inj hc).symm)))
      | @point ds fs e hsome hds =>
        cases ds with
        | nil => exact .inr (Option.some.inj hc).symm
        | cons d ds => exact .inl (hds c (List.mem_cons.mpr (.inl (Option.some.inj hc).symm)))
    constructor <;> rintro rfl <;> revert hfirst <;> decide

/-- Numbers are read by their grammar. -/
theorem exists_read?_iff (cs : List Char) :
    (∃ x : Binary f, read? cs = some x) ↔ SpellsNumber cs := by
  rw [exists_read?_iff_splitSign]
  constructor
  · intro h
    obtain ⟨sign, hsign, hcs⟩ := exists_sign cs
    rw [hcs]
    obtain hname | hdigits := h
    · exact .name hsign hname
    · exact .digits hsign hdigits
  · intro h
    cases h with
    | name hsign hname =>
      rw [splitSign_append hsign (head?_ne_sign (.inl hname))]
      exact .inl hname
    | digits hsign hdigits =>
      rw [splitSign_append hsign (head?_ne_sign (.inr hdigits))]
      exact .inr hdigits

/-- Integers are numbers. -/
theorem spellsNumber_of_spellsInt {cs : List Char} {i : Int} (h : Decimal.SpellsInt cs i) :
    SpellsNumber cs := by
  have hwhole : ∀ {ds : List Char} {n : Nat}, Decimal.Digits ds n → SpellsDigits ds := by
    intro ds n hds
    have hdigits := SpellsDigits.whole hds.ne_nil (fun _ => hds.isDigit_of_mem) .none
    rwa [List.append_nil] at hdigits
  cases h with
  | plain hds => exact @SpellsNumber.digits [] _ (by decide) (hwhole hds)
  | plus hds => exact @SpellsNumber.digits ['+'] _ (by decide) (hwhole hds)
  | minus hds => exact @SpellsNumber.digits ['-'] _ (by decide) (hwhole hds)

/-! ## Characters -/

/-- The characters with which numbers are written, and their names. -/
def IsNumberChar (c : Char) : Prop :=
  c.isAlphanum = true ∨ c ∈ ['+', '-', '.']

instance (c : Char) : Decidable (IsNumberChar c) :=
  inferInstanceAs (Decidable (_ ∨ _))

theorem isNumberChar_of_isDigit {c : Char} (h : c.isDigit = true) : IsNumberChar c :=
  .inl (Bool.or_eq_true_iff.mpr (.inr h))

theorem isNumberChar_of_spellsInt {cs : List Char} {i : Int} (h : Decimal.SpellsInt cs i) {c : Char}
    (hc : c ∈ cs) : IsNumberChar c := by
  cases h with
  | plain hds => exact isNumberChar_of_isDigit (hds.isDigit_of_mem hc)
  | plus hds =>
    obtain rfl | hc := List.mem_cons.mp hc
    · decide
    · exact isNumberChar_of_isDigit (hds.isDigit_of_mem hc)
  | minus hds =>
    obtain rfl | hc := List.mem_cons.mp hc
    · decide
    · exact isNumberChar_of_isDigit (hds.isDigit_of_mem hc)

theorem SpellsExponent.isNumberChar {cs : List Char} (h : SpellsExponent cs) {c : Char}
    (hc : c ∈ cs) : IsNumberChar c := by
  cases h with
  | none => contradiction
  | letter hletter hi =>
    obtain rfl | hc := List.mem_cons.mp hc
    · obtain rfl | rfl := hletter <;> decide
    · exact isNumberChar_of_spellsInt hi hc

theorem SpellsDigits.isNumberChar {cs : List Char} (h : SpellsDigits cs) {c : Char} (hc : c ∈ cs) :
    IsNumberChar c := by
  cases h with
  | whole hsome hds he =>
    obtain hc | hc := List.mem_append.mp hc
    · exact isNumberChar_of_isDigit (hds c hc)
    · exact he.isNumberChar hc
  | point hsome hds hfs he =>
    simp only [List.mem_append, List.mem_cons] at hc
    obtain hc | rfl | hc | hc := hc
    · exact isNumberChar_of_isDigit (hds c hc)
    · decide
    · exact isNumberChar_of_isDigit (hfs c hc)
    · exact he.isNumberChar hc

theorem SpellsNumber.isNumberChar {cs : List Char} (h : SpellsNumber cs) {c : Char} (hc : c ∈ cs) :
    IsNumberChar c := by
  have hsigns : ∀ {sign : List Char}, sign ∈ signs → c ∈ sign → IsNumberChar c := by
    intro sign hsign hc
    simp only [signs, List.mem_cons, List.not_mem_nil, or_false] at hsign
    obtain rfl | rfl | rfl := hsign
    · contradiction
    · obtain rfl := List.mem_singleton.mp hc
      decide
    · obtain rfl := List.mem_singleton.mp hc
      decide
  cases h with
  | name hsign hname =>
    obtain hc | hc := List.mem_append.mp hc
    · exact hsigns hsign hc
    · refine .inl (Bool.or_eq_true_iff.mpr (.inl ?_))
      have hlower : c.toLower.isAlpha = true :=
        isAlpha_of_mem_names hname (List.mem_map_of_mem hc)
      cases hupper : c.isUpper with
      | true => exact Bool.or_eq_true_iff.mpr (.inl hupper)
      | false => rwa [toLower_eq_self hupper] at hlower
  | digits hsign hdigits =>
    obtain hc | hc := List.mem_append.mp hc
    · exact hsigns hsign hc
    · exact hdigits.isNumberChar hc

end Binary

end NodeAccess
