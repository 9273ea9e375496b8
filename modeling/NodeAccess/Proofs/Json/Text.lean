import NodeAccess.Proofs.Json.Literal

/-!
# JSON read back

The text of a value reads back as that value, as long as its strings are texts. The reader is told a
number of steps; three for each character are enough, because every step that goes into an item or a
member is paid for by a bracket, a brace or a comma.
-/

set_option autoImplicit false

namespace NodeAccess.Json

mutual

/-- All strings in a value are texts. -/
def HoldsTexts : Json → Prop
  | .octets _ _ => False
  | .array items => ItemsHoldTexts items
  | .object members => MembersHoldTexts members
  | _ => True

/-- All strings in several values are texts. -/
def ItemsHoldTexts : List Json → Prop
  | [] => True
  | item :: items => HoldsTexts item ∧ ItemsHoldTexts items

/-- All strings in the values of members are texts. -/
def MembersHoldTexts : List (String × Json) → Prop
  | [] => True
  | (_, value) :: members => HoldsTexts value ∧ MembersHoldTexts members

end

/-! ## Single steps -/

theorem skipBlanks_cons {c : Char} (h : isSeparator c = false) (cs : List Char) :
    skipBlanks (c :: cs) = c :: cs := by
  simp [skipBlanks, h]

/-- A comma, a bracket and a brace end a numeral. -/
theorem endsNumeral_cons {c : Char} (hc : c ∈ [',', ']', '}']) (rest : List Char) :
    EndsNumeral (c :: rest) := by
  intro d hd
  cases hd
  simp only [List.mem_cons, List.not_mem_nil, or_false] at hc
  rcases hc with rfl | rfl | rfl <;> decide

theorem endsNumeral_renderItems (items : List Json) (rest : List Char) :
    EndsNumeral (renderItems items ++ rest) := by
  cases items with
  | nil => exact endsNumeral_cons (by decide) _
  | cons item items => exact endsNumeral_cons (by decide) _

theorem endsNumeral_renderMembers (members : List (String × Json)) (rest : List Char) :
    EndsNumeral (renderMembers members ++ rest) := by
  cases members with
  | nil => exact endsNumeral_cons (by decide) _
  | cons member members => exact endsNumeral_cons (by decide) _

def StartsNumeral (c : Char) : Prop :=
  c = '-' ∨ c.isDigit = true

theorem StartsNumeral.ne {c d : Char} (hc : StartsNumeral c) (hd : ¬ StartsNumeral d) : c ≠ d := by
  rintro rfl
  exact hd hc

instance (c : Char) : Decidable (StartsNumeral c) :=
  inferInstanceAs (Decidable (_ ∨ _))

theorem StartsNumeral.isSeparator_eq {c : Char} (hc : StartsNumeral c) : isSeparator c = false := by
  simp [isSeparator, hc.ne (d := ' ') (by decide), hc.ne (d := '\n') (by decide),
    hc.ne (d := '\t') (by decide), hc.ne (d := '\r') (by decide)]

theorem exists_numeral_render_eq_cons (x : Numeral) :
    ∃ c cs, x.render = c :: cs ∧ StartsNumeral c := by
  obtain ⟨negative, whole, fraction, exponent⟩ := x
  unfold Numeral.render
  cases negative with
  | true => exact ⟨'-', _, rfl, .inl rfl⟩
  | false =>
    have hdigits := List.all_eq_true.mp (Decimal.all_isDigit_render whole)
    cases hwhole : Decimal.render whole with
    | nil => exact absurd hwhole (Decimal.render_ne_nil whole)
    | cons d ds => exact ⟨d, _, rfl, .inr (hdigits d (by simp [hwhole]))⟩

/-- The text of a value begins with no blank and with no closing bracket. -/
theorem exists_render_eq_cons (j : Json) :
    ∃ c cs, j.render = c :: cs ∧ isSeparator c = false ∧ c ≠ ']' := by
  unfold render
  split
  case h_4 n =>
    obtain ⟨c, cs, hn, hc⟩ := exists_numeral_render_eq_cons n
    exact ⟨c, cs, hn, hc.isSeparator_eq, hc.ne (by decide)⟩
  all_goals exact ⟨_, _, rfl, by decide, by decide⟩

theorem readValue_numeral (fuel : Nat) {c : Char} (hc : StartsNumeral c) (cs : List Char) :
    readValue (fuel + 1) (c :: cs) =
      (readNumeral? (c :: cs)).map fun (n, rest) => (.number n, rest) := by
  rw [readValue, skipBlanks_cons hc.isSeparator_eq]
  split
  case h_7 => rfl
  all_goals
    rename_i heq
    cases List.head_eq_of_cons_eq heq
    exact absurd hc (by decide)

theorem readValue_array (fuel : Nat) {c : Char} (hblank : isSeparator c = false) (hc : c ≠ ']')
    (cs : List Char) :
    readValue (fuel + 1) ('[' :: c :: cs) =
      (readItems fuel (c :: cs)).map fun (items, rest) => (.array items, rest) := by
  rw [readValue, skipBlanks_cons (c := '[') (by decide)]
  simp [skipBlanks_cons hblank, hc]

theorem readValue_object (fuel : Nat) (cs : List Char) :
    readValue (fuel + 1) ('{' :: '"' :: cs) =
      (readMembers fuel ('"' :: cs)).map fun (members, rest) => (.object members, rest) := by
  rw [readValue]
  rfl

theorem readMember_render (fuel : Nat) (name : String) (cs : List Char) :
    readMember (fuel + 1) (renderString name ++ ':' :: cs) =
      (readValue fuel cs).map fun (value, rest) => ((name, value), rest) := by
  rw [renderString, List.cons_append, readMember, skipBlanks_cons (by decide)]
  simp only [readName?_renderChars, skipBlanks_cons (c := ':') (by decide)]

/-! ## Whole values -/

/-- With so many steps, every text that is short enough reads back. -/
structure ReadsBack (fuel : Nat) : Prop where
  value : ∀ (j : Json) (rest : List Char), j.HoldsTexts → 3 * j.render.length ≤ fuel →
    EndsNumeral rest → readValue fuel (j.render ++ rest) = some (j, rest)
  items : ∀ (item : Json) (items : List Json) (rest : List Char), item.HoldsTexts →
    ItemsHoldTexts items → 3 * (item.render ++ renderItems items).length ≤ fuel →
    readItems fuel (item.render ++ (renderItems items ++ rest)) = some (item :: items, rest)
  member : ∀ (name : String) (value : Json) (rest : List Char), value.HoldsTexts →
    3 * value.render.length < fuel → EndsNumeral rest →
    readMember fuel (renderString name ++ ':' :: (value.render ++ rest)) =
      some ((name, value), rest)
  members : ∀ (name : String) (value : Json) (members : List (String × Json)) (rest : List Char),
    value.HoldsTexts → MembersHoldTexts members →
    3 * (value.render ++ renderMembers members).length ≤ fuel →
    readMembers fuel
        (renderString name ++ ':' :: (value.render ++ (renderMembers members ++ rest))) =
      some ((name, value) :: members, rest)

namespace ReadsBack

/-- Without a step nothing is read, but no text is that short. -/
theorem zero : ReadsBack 0 := by
  have hlong : ∀ (j : Json) (behind : List Char), ¬ 3 * (j.render ++ behind).length ≤ 0 := by
    intro j behind h
    obtain ⟨c, cs, hj, -⟩ := j.exists_render_eq_cons
    simp [hj] at h
  refine ⟨?_, ?_, ?_, ?_⟩
  · intro j rest _ h
    exact absurd h (by simpa using hlong j [])
  · intro item items rest _ _ h
    exact absurd h (hlong item _)
  · intro name value rest _ h
    exact absurd h (Nat.not_lt_zero _)
  · intro name value members rest _ _ h
    exact absurd h (hlong value _)

variable {fuel : Nat}

theorem value_succ (ih : ReadsBack fuel) (j : Json) (rest : List Char) (htexts : j.HoldsTexts)
    (hfuel : 3 * j.render.length ≤ fuel + 1) (hrest : EndsNumeral rest) :
    readValue (fuel + 1) (j.render ++ rest) = some (j, rest) := by
  match j with
  | .null => rfl
  | .boolean true => rfl
  | .boolean false => rfl
  | .number n =>
    obtain ⟨c, cs, hn, hc⟩ := exists_numeral_render_eq_cons n
    have hread := readNumeral?_render n hrest
    rw [render]
    rw [hn] at hread ⊢
    rw [List.cons_append, readValue_numeral fuel hc, ← List.cons_append, hread]
    rfl
  | .string s =>
    rw [render, renderString, List.cons_append, readValue, skipBlanks_cons (by decide)]
    simp [stringParts_renderChars, ofParts_map_char]
  | .octets _ _ => exact htexts.elim
  | .array [] => rfl
  | .array (item :: items) =>
    obtain ⟨c, cs, hitem, hblank, hc⟩ := item.exists_render_eq_cons
    have hshort : 3 * (item.render ++ renderItems items).length ≤ fuel := by
      rw [render, List.length_cons] at hfuel
      omega
    have hitems := ih.items item items rest htexts.1 htexts.2 hshort
    rw [render, List.cons_append, List.append_assoc]
    rw [hitem, List.cons_append] at hitems ⊢
    rw [readValue_array fuel hblank hc, hitems]
    rfl
  | .object [] => rfl
  | .object ((name, value) :: members) =>
    have hshort : 3 * (value.render ++ renderMembers members).length ≤ fuel := by
      simp only [render, List.length_cons, List.length_append] at hfuel ⊢
      omega
    have hmembers := ih.members name value members rest htexts.1 htexts.2 hshort
    have hrender : (Json.object ((name, value) :: members)).render ++ rest =
        '{' :: (renderString name ++ ':' :: (value.render ++ (renderMembers members ++ rest))) := by
      simp [render]
    rw [hrender]
    rw [renderString, List.cons_append] at hmembers ⊢
    rw [readValue_object, hmembers]
    rfl

theorem items_succ (ih : ReadsBack fuel) (item : Json) (items : List Json) (rest : List Char)
    (htext : item.HoldsTexts) (htexts : ItemsHoldTexts items)
    (hfuel : 3 * (item.render ++ renderItems items).length ≤ fuel + 1) :
    readItems (fuel + 1) (item.render ++ (renderItems items ++ rest)) =
      some (item :: items, rest) := by
  rw [List.length_append] at hfuel
  have hbehind : 0 < (renderItems items).length := by
    cases items <;> simp [renderItems]
  have hvalue := ih.value item (renderItems items ++ rest) htext (by omega)
    (endsNumeral_renderItems items rest)
  rw [readItems, hvalue]
  match items with
  | [] =>
    rw [renderItems, List.cons_append, List.nil_append]
    simp [skipBlanks_cons (c := ']') (by decide)]
  | next :: items =>
    have hshort : 3 * (next.render ++ renderItems items).length ≤ fuel := by
      rw [renderItems, List.length_cons] at hfuel
      omega
    have hitems := ih.items next items rest htexts.1 htexts.2 hshort
    rw [renderItems, List.cons_append, List.append_assoc]
    simp [skipBlanks_cons (c := ',') (by decide), hitems]

theorem members_succ (ih : ReadsBack fuel) (name : String) (value : Json)
    (members : List (String × Json)) (rest : List Char) (htext : value.HoldsTexts)
    (htexts : MembersHoldTexts members)
    (hfuel : 3 * (value.render ++ renderMembers members).length ≤ fuel + 1) :
    readMembers (fuel + 1)
        (renderString name ++ ':' :: (value.render ++ (renderMembers members ++ rest))) =
      some ((name, value) :: members, rest) := by
  rw [List.length_append] at hfuel
  have hbehind : 0 < (renderMembers members).length := by
    cases members <;> simp [renderMembers]
  have hmember := ih.member name value (renderMembers members ++ rest) htext (by omega)
    (endsNumeral_renderMembers members rest)
  rw [readMembers, hmember]
  match members with
  | [] =>
    rw [renderMembers, List.cons_append, List.nil_append]
    simp [skipBlanks_cons (c := '}') (by decide)]
  | (next, nextValue) :: members =>
    have hshort : 3 * (nextValue.render ++ renderMembers members).length ≤ fuel := by
      simp only [renderMembers, List.length_cons, List.length_append] at hfuel ⊢
      omega
    have hmembers := ih.members next nextValue members rest htexts.1 htexts.2 hshort
    have hrender : renderMembers ((next, nextValue) :: members) ++ rest =
        ',' :: (renderString next ++ ':' ::
          (nextValue.render ++ (renderMembers members ++ rest))) := by
      simp [renderMembers]
    rw [hrender]
    simp [skipBlanks_cons (c := ',') (by decide), hmembers]

end ReadsBack

/-- Whatever the number of steps, every text that is short enough for it reads back. The induction
is on the number of steps, as the reader's recursion is. -/
theorem readsBack (fuel : Nat) : ReadsBack fuel := by
  induction fuel with
  | zero => exact .zero
  | succ fuel ih =>
    refine ⟨ih.value_succ, ih.items_succ, ?_, ih.members_succ⟩
    intro name value rest htexts hfuel hrest
    have hvalue := ih.value value rest htexts (Nat.le_of_lt_succ hfuel) hrest
    rw [readMember_render, hvalue]
    rfl

/-- The text of a value whose strings are texts reads back as that value. -/
theorem read?_toText (j : Json) (htexts : j.HoldsTexts) : read? j.toText = some j := by
  have hread := (readsBack (3 * j.render.length + 1)).value j [] htexts (Nat.le_succ _)
    (by simp [EndsNumeral])
  rw [List.append_nil] at hread
  rw [read?, toText, String.toList_ofList, readChars?, hread]
  rfl

end NodeAccess.Json
