import NodeAccess.Json.Reader
import NodeAccess.Json.Writer
import NodeAccess.Proofs.Text.Digits

/-!
# Strings and numerals read back

What is written of a string or a numeral reads back in front of any text, as long as that text does
not go on with a numeral. Strings are read part by part; every character that is written, escaped or
not, makes one part that is that character again.
-/

set_option autoImplicit false

namespace NodeAccess

namespace Decimal

theorem head?_render_ne_zero {n : Nat} (h : 0 < n) : (render n).head? ≠ some '0' := by
  induction n using Nat.strongRecOn with
  | ind n ih =>
    by_cases hn : n < 10
    · have hall : ∀ d : Fin 10, 0 < d.val → Nat.digitChar d.val ≠ '0' := by decide
      rw [render, Nat.toDigits_of_lt_base hn]
      simpa using hall ⟨n, hn⟩ h
    · have hfront := ih (n / 10) (by omega) (by omega)
      rw [render, Nat.toDigits_of_base_le (by decide) (by omega)]
      cases hdigits : Nat.toDigits 10 (n / 10) with
      | nil => exact absurd hdigits Nat.toDigits_ne_nil
      | cons c cs =>
        rw [render, hdigits] at hfront
        exact hfront

/-- A rendered number is a digit alone or begins with another digit than zero. -/
theorem render_ne_zero_cons (n : Nat) (c : Char) (cs : List Char) : render n ≠ '0' :: c :: cs := by
  intro h
  by_cases hn : n = 0
  · subst hn
    cases h
  · apply head?_render_ne_zero (Nat.pos_of_ne_zero hn)
    rw [h]
    rfl

theorem render_append_ne_cons (n : Nat) (rest : List Char) {c : Char} (hc : c.isDigit = false)
    (cs : List Char) : render n ++ rest ≠ c :: cs :=
  append_ne_cons_of_isDigit (List.all_eq_true.mp (all_isDigit_render n)) (render_ne_nil n) rest hc cs

end Decimal

namespace Numeral

theorem digit?_digit (d : Fin 10) : digit? (digit d) = some d := by
  revert d
  decide

theorem filterMap_digit?_map (ds : List (Fin 10)) : (ds.map digit).filterMap digit? = ds := by
  induction ds with
  | nil => rfl
  | cons d ds ih => rw [List.map_cons, List.filterMap_cons_some (digit?_digit d), ih]

theorem isDigit_digit (d : Fin 10) : (digit d).isDigit = true := by
  revert d
  decide

end Numeral

namespace Json

/-! ## Numerals -/

/-- A text does not go on with a numeral that stands before it. -/
def EndsNumeral (rest : List Char) : Prop :=
  ∀ c ∈ rest.head?, c.isDigit = false ∧ c ≠ '.' ∧ c ≠ 'e' ∧ c ≠ 'E'

theorem EndsNumeral.startsApart {rest : List Char} (h : EndsNumeral rest) :
    Decimal.StartsApart rest :=
  fun c hc => (h c hc).1

theorem readWhole?_render (n : Nat) {rest : List Char} (h : Decimal.StartsApart rest) :
    readWhole? (Decimal.render n ++ rest) = some (n, rest) := by
  have hdigits : ∀ c ∈ Decimal.render n, c.isDigit = true :=
    List.all_eq_true.mp (Decimal.all_isDigit_render n)
  have hvalue : Nat.ofDigitChars 10 (Decimal.render n) 0 = n := Nat.ofDigitChars_ten_toDigits
  unfold readWhole?
  rw [Decimal.spanDigits_append hdigits h]
  simp only
  split
  · rename_i hnil
    exact absurd hnil (Decimal.render_ne_nil n)
  · rename_i hzero
    exact absurd hzero (Decimal.render_ne_zero_cons n _ _)
  · rw [hvalue]

theorem readFraction?_render (fraction : List (Fin 10)) {rest : List Char}
    (hdigit : Decimal.StartsApart rest) (hpoint : rest.head? ≠ some '.') :
    readFraction? ((if fraction.isEmpty then [] else '.' :: fraction.map Numeral.digit) ++ rest) =
      some (fraction, rest) := by
  cases fraction with
  | nil =>
    cases rest with
    | nil => rfl
    | cons c rest =>
      have hc : c ≠ '.' := by simpa using hpoint
      simp [readFraction?, hc]
  | cons d ds =>
    have hdigits : ∀ c ∈ (d :: ds).map Numeral.digit, c.isDigit = true := by
      intro c hc
      obtain ⟨e, -, rfl⟩ := List.mem_map.mp hc
      exact Numeral.isDigit_digit e
    rw [List.isEmpty_cons, if_neg Bool.false_ne_true, List.cons_append]
    simp only [readFraction?, Decimal.spanDigits_append hdigits hdigit,
      Numeral.filterMap_digit?_map]
    rfl

/-- Digits after a sign, if there is one, are read as they are. -/
theorem readPower?_render (n : Nat) {rest : List Char} (h : Decimal.StartsApart rest) :
    readPower? ('-' :: (Decimal.render n ++ rest)) = some (-(n : Int), rest) ∧
      readPower? (Decimal.render n ++ rest) = some ((n : Int), rest) := by
  have hdigits : ∀ c ∈ Decimal.render n, c.isDigit = true :=
    List.all_eq_true.mp (Decimal.all_isDigit_render n)
  have hspan := Decimal.spanDigits_append hdigits h
  have hvalue : Nat.ofDigitChars 10 (Decimal.render n) 0 = n := Nat.ofDigitChars_ten_toDigits
  have hne : (Decimal.render n).isEmpty = false := by simpa using Decimal.render_ne_nil n
  constructor
  · simp only [readPower?, hspan, hne, hvalue]
    rfl
  · unfold readPower?
    split
    rename_i negative body hbody
    split at hbody
    · rename_i hminus
      exact absurd hminus (Decimal.render_append_ne_cons n rest (by decide) _)
    · rename_i hplus
      exact absurd hplus (Decimal.render_append_ne_cons n rest (by decide) _)
    · cases hbody
      simp only [hspan, hne, hvalue]
      rfl

/-- The text of an exponent, if there is one. -/
def renderExponent : Option Int → List Char
  | none => []
  | some e => 'e' :: Decimal.renderInt e

/-- A numeral is written as its sign, its whole part, its fraction and its exponent. -/
theorem render_numeral (negative : Bool) (whole : Nat) (fraction : List (Fin 10))
    (exponent : Option Int) :
    Numeral.render ⟨negative, whole, fraction, exponent⟩ =
      (if negative then ['-'] else []) ++ (Decimal.render whole ++
        ((if fraction.isEmpty then [] else '.' :: fraction.map Numeral.digit) ++
          renderExponent exponent)) := by
  unfold Numeral.render
  rw [List.append_assoc, List.append_assoc]
  cases exponent <;> rfl

theorem readExponent?_render (exponent : Option Int) {rest : List Char} (h : EndsNumeral rest) :
    readExponent? (renderExponent exponent ++ rest) = some (exponent, rest) := by
  cases exponent with
  | none =>
    cases rest with
    | nil => rfl
    | cons c rest =>
      obtain ⟨-, -, he, hE⟩ := h c rfl
      simp [renderExponent, readExponent?, he, hE]
  | some e =>
    have hpower : readPower? (Decimal.renderInt e ++ rest) = some (e, rest) := by
      cases e with
      | ofNat n => exact (readPower?_render n h.startsApart).2
      | negSucc n => exact (readPower?_render (n + 1) h.startsApart).1
    simp [renderExponent, readExponent?, hpower]

/-- A written numeral reads back. -/
theorem readNumeral?_render (x : Numeral) {rest : List Char} (h : EndsNumeral rest) :
    readNumeral? (x.render ++ rest) = some (x, rest) := by
  obtain ⟨negative, whole, fraction, exponent⟩ := x
  -- what follows the fraction, and what follows the whole part
  let power : List Char := renderExponent exponent ++ rest
  let tail : List Char :=
    (if fraction.isEmpty then [] else '.' :: fraction.map Numeral.digit) ++ power
  have hpower : Decimal.StartsApart power ∧ power.head? ≠ some '.' := by
    cases exponent with
    | none => exact ⟨h.startsApart, fun hpoint => (h '.' hpoint).2.1 rfl⟩
    | some e =>
      exact ⟨by simp [power, renderExponent, Decimal.StartsApart], by simp [power, renderExponent]⟩
  have htail : Decimal.StartsApart tail := by
    cases fraction with
    | nil => exact hpower.1
    | cons d ds => simp [tail, Decimal.StartsApart]
  have hwhole : readWhole? (Decimal.render whole ++ tail) = some (whole, tail) :=
    readWhole?_render whole htail
  have hfraction : readFraction? tail = some (fraction, power) :=
    readFraction?_render fraction hpower.1 hpower.2
  have hexponent : readExponent? power = some (exponent, rest) := readExponent?_render exponent h
  have hrender : Numeral.render ⟨negative, whole, fraction, exponent⟩ ++ rest =
      (if negative then ['-'] else []) ++ (Decimal.render whole ++ tail) := by
    simp only [render_numeral, tail, power, List.append_assoc]
  rw [hrender]
  cases negative with
  | true => simp [readNumeral?, hwhole, hfraction, hexponent]
  | false =>
    unfold readNumeral?
    split
    rename_i negative body hbody
    split at hbody
    · rename_i hminus
      exact absurd hminus (Decimal.render_append_ne_cons whole tail (by decide) _)
    · cases hbody
      simp [hwhole, hfraction, hexponent]

/-! ## Strings -/

/-- The four digits of an escaped control character read back as its code. -/
theorem digits?_renderFixed {n : Nat} (h : n < 0x20) :
    (Hex.digits? (Hex.renderFixed 4 n)).map Hex.toNat = some n := by
  have hall : ∀ n : Fin 0x20,
      (Hex.digits? (Hex.renderFixed 4 n.val)).map Hex.toNat = some n.val := by
    decide
  exact hall ⟨n, h⟩

/-- A character is written as an escape of one letter, as one of four digits, or as it is. -/
theorem renderChar_cases (c : Char) :
    (∃ e, renderChar c = ['\\', e] ∧ e ≠ 'u' ∧ escape? e = some c) ∨
      (renderChar c = '\\' :: 'u' :: Hex.renderFixed 4 c.toNat ∧ c.toNat < 0x20) ∨
      (renderChar c = [c] ∧ c ≠ '"' ∧ c ≠ '\\' ∧ 0x20 ≤ c.toNat) := by
  unfold renderChar
  -- the seven characters with an escape of one letter
  iterate 7
    split
    · subst c
      exact .inl ⟨_, rfl, by decide, by decide⟩
  split
  · rename_i hcontrol
    exact .inr (.inl ⟨rfl, hcontrol⟩)
  · rename_i hquote hbackslash _ _ _ _ _ hprintable
    exact .inr (.inr ⟨rfl, hquote, hbackslash, Nat.le_of_not_lt hprintable⟩)

/-- A written character is one part of a string. -/
theorem stringParts_renderChar (c : Char) (cs : List Char) :
    stringParts (renderChar c ++ cs) =
      (stringParts cs).map fun (parts, rest) => (.char c :: parts, rest) := by
  rcases renderChar_cases c with
    ⟨e, hwritten, hu, hescape⟩ | ⟨hwritten, hcontrol⟩ | ⟨hwritten, hquote, hbackslash, hprintable⟩
  · rw [hwritten, List.cons_append, List.cons_append, List.nil_append,
      stringParts.eq_4 _ _ (fun _ _ _ _ _ h _ => hu h), hescape]
    cases stringParts cs <;> rfl
  · obtain ⟨ds, hds, hcode⟩ := Option.map_eq_some_iff.mp (digits?_renderFixed hcontrol)
    have hpart : unitPart c.toNat = .char c := by
      rw [unitPart, if_neg (by omega), Char.ofNat_toNat]
    have hfour : renderChar c ++ cs = '\\' :: 'u' :: (Hex.renderFixed 4 c.toNat ++ cs) := by
      rw [hwritten]
      rfl
    rw [hfour]
    simp only [Hex.renderFixed, List.nil_append, List.cons_append] at hds ⊢
    rw [stringParts.eq_3, hds]
    cases stringParts cs with
    | none => rfl
    | some result => simp [hcode, hpart]
  · rw [hwritten, List.cons_append, List.nil_append,
      stringParts.eq_5 _ _ hquote (fun _ _ _ _ _ h _ => hbackslash h)
        (fun _ _ h _ => hbackslash h), if_neg (by omega)]
    cases stringParts cs <;> rfl

theorem joinPairs_map_char (cs : List Char) :
    joinPairs (cs.map .char) = cs.map .char := by
  induction cs with
  | nil => rfl
  | cons c cs ih => simp [joinPairs, ih]

theorem partsText?_map_char (cs : List Char) : partsText? (cs.map .char) = some cs := by
  induction cs with
  | nil => rfl
  | cons c cs ih => simp [partsText?, ih]

/-- Written characters up to the closing quote are parts of a string. -/
theorem stringParts_renderChars (cs rest : List Char) :
    stringParts (renderChars cs ++ rest) = some (cs.map .char, rest) := by
  induction cs with
  | nil => rfl
  | cons c cs ih =>
    rw [renderChars, List.append_assoc, stringParts_renderChar, ih]
    rfl

theorem ofParts_map_char (s : String) : ofParts (s.toList.map .char) = .string s := by
  simp [ofParts, joinPairs_map_char, partsText?_map_char]

theorem readName?_renderChars (name : String) (rest : List Char) :
    readName? (renderChars name.toList ++ rest) = some (name, rest) := by
  simp [readName?, stringParts_renderChars, joinPairs_map_char, partsText?_map_char]

end Json

end NodeAccess
