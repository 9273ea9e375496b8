import NodeAccess.Proofs.NodeId.Spelling

/-!
# Why a text is no node identifier

A text can be wrong in several places at once, and the first of them decides what is reported. The
namespace comes before the identifier: without a semicolon the whole text is missing one, and a bad
index is reported whatever stands behind it. Only then does the rest count, which is empty, has a
mark and a bad body, or has no known mark. `Remainder.outcome` lists what the reader can come to
with the rest of a text; what is reported follows by cases on it.
-/

set_option autoImplicit false

namespace NodeAccess

/-- The letter and the equals sign before a body of the kind. -/
def IdentifierKind.mark : IdentifierKind → String
  | .numeric => "i="
  | .guid => "g="
  | .octets => "b="

/-- The text has a body, and neither one of the three marks nor that of a text before it. -/
structure Identifier.Unmarked (rest : String) : Prop where
  ne_empty : rest ≠ ""
  ne_mark : ∀ (kind : IdentifierKind) (body : String), rest ≠ kind.mark ++ body
  ne_text : ∀ body : String, rest ≠ "s=" ++ body

namespace IdentifierKind

theorem mark_ne_empty (kind : IdentifierKind) : kind.mark ≠ "" := by
  cases kind <;> simp [mark]

theorem mark_append_ne_text (kind : IdentifierKind) (body other : String) :
    kind.mark ++ body ≠ "s=" ++ other := by
  intro h
  have hlist := congrArg String.toList h
  cases kind <;> simp [mark] at hlist

theorem mark_append_inj {kind kind' : IdentifierKind} {body body' : String}
    (h : kind.mark ++ body = kind'.mark ++ body') : kind = kind' ∧ body = body' := by
  have hlist := congrArg String.toList h
  cases kind <;> cases kind' <;> simp [mark, String.toList_inj] at hlist <;> simp [hlist]

theorem utf8ByteSize_mark (kind : IdentifierKind) : kind.mark.utf8ByteSize = 2 := by
  cases kind <;> rfl

end IdentifierKind

namespace Identifier

theorem not_unmarked_empty : ¬ Unmarked "" :=
  fun h => h.ne_empty rfl

theorem not_unmarked_mark (kind : IdentifierKind) (body : String) :
    ¬ Unmarked (kind.mark ++ body) :=
  fun h => h.ne_mark kind body rfl

theorem not_unmarked_text (body : String) : ¬ Unmarked ("s=" ++ body) :=
  fun h => h.ne_text body rfl

/-- A text that cannot be cut behind its second byte has no mark. -/
theorem unmarked_of_uncut {rest : String} (hne : rest ≠ "")
    (huncut : ∀ front behind : String, rest = front ++ behind → front.utf8ByteSize ≠ 2) :
    Unmarked rest where
  ne_empty := hne
  ne_mark kind _ h := huncut _ _ h kind.utf8ByteSize_mark
  ne_text _ h := huncut _ _ h rfl

theorem read_mark (whole : List Char) (kind : IdentifierKind) (body : String) :
    (∃ i, read whole (kind.mark ++ body).toList = .ok i) ∨
      read whole (kind.mark ++ body).toList = .error (.invalidIdentifier kind body) := by
  have hbody : ∃ value, read whole (kind.mark ++ body).toList = ofBody kind body.toList value := by
    rw [String.toList_append]
    cases kind <;> exact ⟨_, rfl⟩
  obtain ⟨value, hvalue⟩ := hbody
  rw [hvalue]
  cases value with
  | some i => exact .inl ⟨i, rfl⟩
  | none =>
    right
    rw [ofBody, String.ofList_toList]

theorem read_text (whole : List Char) (body : String) :
    read whole ("s=" ++ body).toList = .ok (.text body) := by
  have hlist : ("s=" ++ body).toList = 's' :: '=' :: body.toList := String.toList_append
  rw [hlist, read, String.ofList_toList]

theorem read_unmarked (whole : List Char) {rest : String} (h : Unmarked rest) :
    read whole rest.toList = .error (.unknownIdentifierType (String.ofList whole)) := by
  have hrest : ∀ front body : List Char, rest.toList = front ++ body →
      rest = String.ofList front ++ String.ofList body := by
    intro front body hlist
    rw [← String.ofList_append, ← hlist, String.ofList_toList]
  unfold read
  split
  · rename_i hlist
    exact absurd (String.toList_eq_nil_iff.mp hlist) h.ne_empty
  · rename_i body hlist
    exact absurd (hrest ['i', '='] body hlist) (h.ne_mark .numeric _)
  · rename_i body hlist
    exact absurd (hrest ['s', '='] body hlist) (h.ne_text _)
  · rename_i body hlist
    exact absurd (hrest ['g', '='] body hlist) (h.ne_mark .guid _)
  · rename_i body hlist
    exact absurd (hrest ['b', '='] body hlist) (h.ne_mark .octets _)
  · rfl

/-- Every text is empty, has one of the marks, or has none. -/
theorem unmarked_or (rest : String) :
    rest = "" ∨ (∃ (kind : IdentifierKind) (body : String), rest = kind.mark ++ body) ∨
      (∃ body : String, rest = "s=" ++ body) ∨ Unmarked rest := by
  by_cases hempty : rest = ""
  · exact .inl hempty
  · by_cases hmark : ∃ (kind : IdentifierKind) (body : String), rest = kind.mark ++ body
    · exact .inr (.inl hmark)
    · by_cases htext : ∃ body : String, rest = "s=" ++ body
      · exact .inr (.inr (.inl htext))
      · push Not at hmark htext
        exact .inr (.inr (.inr ⟨hempty, hmark, htext⟩))

end Identifier

namespace NodeId

/-- The text begins like a namespace, and its first semicolon stands between the two parts. -/
def CutAtSemicolon (t index rest : String) : Prop :=
  t = "ns=" ++ index ++ ";" ++ rest ∧ ';' ∉ index.toList

/-- What is left to be read as an identifier where the namespace is in order: all of a text without
a namespace, and otherwise what stands behind the first semicolon. -/
inductive Remainder (t : String) : String → Prop where
  | whole : (∀ tail : String, t ≠ "ns=" ++ tail) → Remainder t t
  | behind {index rest : String} {n : Nat} :
      CutAtSemicolon t index rest → Decimal.Spells 65535 index.toList n → Remainder t rest

theorem splitAtSemicolon?_eq_none_iff (cs : List Char) :
    splitAtSemicolon? cs = none ↔ ';' ∉ cs := by
  induction cs with
  | nil => simp [splitAtSemicolon?]
  | cons c cs ih =>
    by_cases hc : c = ';'
    · simp [splitAtSemicolon?, hc]
    · simp [splitAtSemicolon?, hc, ih, Ne.symm hc]

theorem read_unseparated {tail : String} (h : ';' ∉ ("ns=" ++ tail).toList) :
    read ("ns=" ++ tail) = .error (.missingIdentifier ("ns=" ++ tail)) := by
  have htail : splitAtSemicolon? tail.toList = none := by
    rw [splitAtSemicolon?_eq_none_iff]
    simpa using h
  have hlist : ("ns=" ++ tail).toList = 'n' :: 's' :: '=' :: tail.toList := String.toList_append
  rw [read, hlist]
  simp only [readChars, htail]
  rw [← hlist, String.ofList_toList]

/-- A text that is cut at its first semicolon is read by its index, and then by the rest. -/
theorem CutAtSemicolon.read_eq {t index rest : String} (h : CutAtSemicolon t index rest) :
    read t = (Decimal.readUpTo? 65535 index.toList).elim (.error (.invalidNamespace index))
      fun n => (Identifier.read t.toList rest.toList).map fun i => ⟨UInt16.ofNat n, i⟩ := by
  obtain ⟨rfl, hsemicolon⟩ := h
  have hlist : ("ns=" ++ index ++ ";" ++ rest).toList =
      "ns=".toList ++ index.toList ++ ';' :: rest.toList := by simp
  rw [read, hlist, readChars_cut hsemicolon, String.ofList_toList]

theorem CutAtSemicolon.read_of_bad_index {t index rest : String} (h : CutAtSemicolon t index rest)
    (hindex : ∀ n : Nat, ¬ Decimal.Spells 65535 index.toList n) :
    read t = .error (.invalidNamespace index) := by
  have hnone : Decimal.readUpTo? 65535 index.toList = none := by
    rw [Option.eq_none_iff_forall_ne_some]
    intro n hn
    exact hindex n ((Decimal.readUpTo?_eq_some_iff _ _ _).mp hn)
  rw [h.read_eq, hnone, Option.elim_none]

theorem read_of_no_namespace {t : String} (h : ∀ tail : String, t ≠ "ns=" ++ tail) :
    read t = (Identifier.read t.toList t.toList).map fun i => ⟨0, i⟩ := by
  have hplain : ∀ tail : List Char, t.toList = 'n' :: 's' :: '=' :: tail → False := by
    intro tail hlist
    apply h (String.ofList tail)
    rw [← String.toList_inj, hlist]
    simp
  rw [read, readChars.eq_2 _ hplain]

theorem Remainder.exists_read_eq {t rest : String} (h : Remainder t rest) :
    ∃ ns : UInt16, read t = (Identifier.read t.toList rest.toList).map fun i => ⟨ns, i⟩ := by
  cases h with
  | whole hplain => exact ⟨0, read_of_no_namespace hplain⟩
  | @behind index _ n hcut hindex =>
    refine ⟨UInt16.ofNat n, ?_⟩
    rw [hcut.read_eq, (Decimal.readUpTo?_eq_some_iff _ _ _).mpr hindex, Option.elim_some]

/-- Any text has no semicolon behind the beginning of a namespace, has a bad index before the first
one, or leaves a rest to be read. -/
theorem exists_fault_or_remainder (t : String) :
    (∃ tail : String, t = "ns=" ++ tail ∧ ';' ∉ t.toList) ∨
      (∃ index rest : String, CutAtSemicolon t index rest ∧
        ∀ n : Nat, ¬ Decimal.Spells 65535 index.toList n) ∨
      ∃ rest : String, Remainder t rest := by
  by_cases hplain : ∀ tail : String, t ≠ "ns=" ++ tail
  · exact .inr (.inr ⟨t, .whole hplain⟩)
  · push Not at hplain
    obtain ⟨tail, rfl⟩ := hplain
    by_cases hsemicolon : ';' ∈ tail.toList
    · obtain ⟨index, rest, htail, hfirst⟩ := List.eq_append_cons_of_mem hsemicolon
      have hcut : CutAtSemicolon ("ns=" ++ tail) (String.ofList index) (String.ofList rest) := by
        refine ⟨?_, ?_⟩
        · rw [← String.toList_inj]
          simp [htail]
        · rwa [String.toList_ofList]
      by_cases hindex : ∃ n, Decimal.Spells 65535 index n
      · obtain ⟨n, hn⟩ := hindex
        refine .inr (.inr ⟨_, .behind hcut (n := n) ?_⟩)
        rwa [String.toList_ofList]
      · refine .inr (.inl ⟨_, _, hcut, ?_⟩)
        rw [String.toList_ofList]
        exact not_exists.mp hindex
    · refine .inl ⟨tail, rfl, ?_⟩
      simpa using hsemicolon

/-- What the reader can come to with the rest of a text. -/
inductive Outcome (t : String) : String → Prop where
  | empty : read t = .error (.missingIdentifier t) → Outcome t ""
  | accepted {kind : IdentifierKind} {body : String} {id : NodeId} :
      read t = .ok id → Outcome t (kind.mark ++ body)
  | badBody {kind : IdentifierKind} {body : String} :
      read t = .error (.invalidIdentifier kind body) → Outcome t (kind.mark ++ body)
  | text {body : String} {id : NodeId} : read t = .ok id → Outcome t ("s=" ++ body)
  | unmarked {rest : String} :
      Identifier.Unmarked rest → read t = .error (.unknownIdentifierType t) → Outcome t rest

theorem Remainder.outcome {t rest : String} (h : Remainder t rest) : Outcome t rest := by
  obtain ⟨ns, hread⟩ := h.exists_read_eq
  rcases Identifier.unmarked_or rest with rfl | ⟨kind, body, rfl⟩ | ⟨body, rfl⟩ | hrest
  · refine .empty ?_
    rw [hread, String.toList_empty, Identifier.read, String.ofList_toList, Except.map]
  · rcases Identifier.read_mark t.toList kind body with ⟨i, hi⟩ | hi
    · have hok : read t = .ok ⟨ns, i⟩ := by rw [hread, hi, Except.map]
      exact .accepted hok
    · refine .badBody ?_
      rw [hread, hi, Except.map]
  · have hok : read t = .ok ⟨ns, .text body⟩ := by rw [hread, Identifier.read_text, Except.map]
    exact .text hok
  · refine .unmarked hrest ?_
    rw [hread, Identifier.read_unmarked _ hrest, String.ofList_toList, Except.map]

/-- How the rest of a text decides what is reported of the text. -/
structure ReportedByRest (t rest : String) : Prop where
  missing : read t = .error (.missingIdentifier t) ↔ rest = ""
  invalid : ∀ (kind : IdentifierKind) (body : String),
    read t = .error (.invalidIdentifier kind body) ↔
      rest = kind.mark ++ body ∧ ∃ e, read t = .error e
  unknown : read t = .error (.unknownIdentifierType t) ↔ Identifier.Unmarked rest
  uncut : rest ≠ "" →
    (∀ front behind : String, rest = front ++ behind → front.utf8ByteSize ≠ 2) →
      read t = .error (.unknownIdentifierType t)
  text : ∀ body : String, rest = "s=" ++ body → ∃ id, read t = .ok id

theorem Outcome.unknown_iff {t rest : String} (h : Outcome t rest) :
    read t = .error (.unknownIdentifierType t) ↔ Identifier.Unmarked rest := by
  cases h with
  | empty hread => simp [hread, Identifier.not_unmarked_empty]
  | accepted hread => simp [hread, Identifier.not_unmarked_mark]
  | badBody hread => simp [hread, Identifier.not_unmarked_mark]
  | text hread => simp [hread, Identifier.not_unmarked_text]
  | unmarked hrest hread => simp [hread, hrest]

theorem Outcome.missing_iff {t rest : String} (h : Outcome t rest) :
    read t = .error (.missingIdentifier t) ↔ rest = "" := by
  cases h with
  | empty hread => simp [hread]
  | accepted hread => simp [hread, IdentifierKind.mark_ne_empty]
  | badBody hread => simp [hread, IdentifierKind.mark_ne_empty]
  | text hread => simp [hread]
  | unmarked hrest hread => simp [hread, hrest.ne_empty]

theorem Outcome.invalid_iff {t rest : String} (h : Outcome t rest) (kind : IdentifierKind)
    (body : String) :
    read t = .error (.invalidIdentifier kind body) ↔
      rest = kind.mark ++ body ∧ ∃ e, read t = .error e := by
  constructor
  · intro hread
    cases h with
    | badBody hbad =>
      rw [hread] at hbad
      cases hbad
      exact ⟨rfl, _, hread⟩
    | empty hother => simp [hread] at hother
    | accepted hother => simp [hread] at hother
    | text hother => simp [hread] at hother
    | unmarked _ hother => simp [hread] at hother
  · rintro ⟨rfl, e, hread⟩
    generalize hrest : kind.mark ++ body = rest at h
    cases h with
    | empty => simp [IdentifierKind.mark_ne_empty] at hrest
    | accepted hother => simp [hread] at hother
    | badBody hbad =>
      obtain ⟨rfl, rfl⟩ := IdentifierKind.mark_append_inj hrest
      exact hbad
    | text hother => simp [hread] at hother
    | unmarked hunmarked _ => exact absurd hrest.symm (hunmarked.ne_mark kind body)

theorem Outcome.exists_id {t body : String} (h : Outcome t ("s=" ++ body)) :
    ∃ id, read t = .ok id := by
  generalize hrest : "s=" ++ body = rest at h
  cases h with
  | empty => simp at hrest
  | @accepted _ _ id hread => exact ⟨id, hread⟩
  | badBody => exact absurd hrest.symm (IdentifierKind.mark_append_ne_text _ _ _)
  | @text _ id hread => exact ⟨id, hread⟩
  | unmarked hunmarked => exact absurd hrest.symm (hunmarked.ne_text body)

theorem Remainder.reportedByRest {t rest : String} (h : Remainder t rest) :
    ReportedByRest t rest where
  missing := h.outcome.missing_iff
  invalid := h.outcome.invalid_iff
  unknown := h.outcome.unknown_iff
  uncut hne huncut := h.outcome.unknown_iff.mpr (Identifier.unmarked_of_uncut hne huncut)
  text := by
    rintro body rfl
    exact h.outcome.exists_id

/-- Of all that may be wrong with a text, the first thing is reported, with the part of the text
that is at fault. A namespace without a semicolon misses its identifier; an index that is no number
of sixteen bits is reported by itself, whatever follows; and else the rest decides: it is empty, it
has a mark and a body that is none of its kind, or it has no mark, as when it cannot be cut behind
its second byte. A text behind `s=` is always taken. -/
theorem first_fault_reported (t : String) :
    (∀ tail : String, t = "ns=" ++ tail → ';' ∉ t.toList →
        read t = .error (.missingIdentifier t)) ∧
      (∀ index rest : String, CutAtSemicolon t index rest →
        (∀ n : Nat, ¬ Decimal.Spells 65535 index.toList n) →
          read t = .error (.invalidNamespace index)) ∧
      (∀ rest : String, Remainder t rest → ReportedByRest t rest) ∧
      ((∃ tail : String, t = "ns=" ++ tail ∧ ';' ∉ t.toList) ∨
        (∃ index rest : String, CutAtSemicolon t index rest ∧
          ∀ n : Nat, ¬ Decimal.Spells 65535 index.toList n) ∨
        ∃ rest : String, Remainder t rest) := by
  refine ⟨?_, ?_, ?_, exists_fault_or_remainder t⟩
  · rintro tail rfl hsemicolon
    exact read_unseparated hsemicolon
  · intro index rest hcut hindex
    exact hcut.read_of_bad_index hindex
  · intro rest hrest
    exact hrest.reportedByRest

/-- A bad index hides the bad body behind it; and a letter before a character of three bytes is no
mark. -/
theorem first_fault_reported_twice_wrong :
    (CutAtSemicolon "ns=70000;i=x" "70000" "i=x" ∧
        (∀ n : Nat, ¬ Decimal.Spells 65535 "70000".toList n) ∧
        read "ns=70000;i=x" = .error (.invalidNamespace "70000")) ∧
      Remainder "ns=2;i€" "i€" ∧
        (∀ front behind : String, "i€" = front ++ behind → front.utf8ByteSize ≠ 2) ∧
        read "ns=2;i€" = .error (.unknownIdentifierType "ns=2;i€") := by
  have hcut : CutAtSemicolon "ns=70000;i=x" "70000" "i=x" := ⟨rfl, by decide⟩
  have hindex : ∀ n : Nat, ¬ Decimal.Spells 65535 "70000".toList n := by
    intro n hn
    have hread := (Decimal.readUpTo?_eq_some_iff _ _ _).mpr hn
    cases hread
  have hrest : Remainder "ns=2;i€" "i€" := by
    have htwo : CutAtSemicolon "ns=2;i€" "2" "i€" := ⟨rfl, by decide⟩
    exact .behind htwo ((Decimal.readUpTo?_eq_some_iff 65535 "2".toList 2).mp rfl)
  have huncut : ∀ front behind : String, "i€" = front ++ behind → front.utf8ByteSize ≠ 2 := by
    intro front behind h
    have hlist : ['i', '€'] = front.toList ++ behind.toList := by
      rw [← String.toList_append, ← h]
      rfl
    rw [← String.ofList_toList (s := front)]
    rcases List.cons_eq_append_iff.mp hlist with ⟨hnil, -⟩ | ⟨behindFirst, hfirst, hlast⟩
    · rw [hnil]
      decide
    · rw [hfirst]
      rcases List.cons_eq_append_iff.mp hlast with ⟨rfl, -⟩ | ⟨more, rfl, hmore⟩
      · decide
      · obtain ⟨rfl, -⟩ := List.append_eq_nil_iff.mp hmore.symm
        decide
  refine ⟨⟨hcut, hindex, ?_⟩, hrest, huncut, ?_⟩
  · exact (first_fault_reported "ns=70000;i=x").2.1 _ _ hcut hindex
  · exact ((first_fault_reported "ns=2;i€").2.2.1 _ hrest).uncut (by decide) huncut

end NodeId

end NodeAccess
