import NodeAccess.Text.Described

/-!
# Names and texts

Names qualified by a namespace, and texts for people with the locale they are written for.
-/

set_option autoImplicit false

namespace NodeAccess

/-- A name qualified by the index of a namespace. -/
structure QualifiedName where
  namespaceIndex : UInt16
  name : String
deriving DecidableEq, Inhabited

namespace QualifiedName

/-- The text of a qualified name: the index, a colon and the name. -/
def toText (n : QualifiedName) : String :=
  toString n.namespaceIndex.toNat ++ ":" ++ n.name

/-- A qualified name described. -/
def describe (n : QualifiedName) : String :=
  Described.record "QualifiedName"
    [("namespace_index", toString n.namespaceIndex.toNat), ("name", Described.text n.name)]

end QualifiedName

/-- A text for people; the locale is empty when it holds everywhere. -/
structure LocalizedText where
  locale : String
  text : String
deriving DecidableEq, Inhabited

namespace LocalizedText

/-- A text without a locale. -/
def invariant (text : String) : LocalizedText :=
  ⟨"", text⟩

/-- A localized text described. -/
def describe (t : LocalizedText) : String :=
  Described.record "LocalizedText"
    [("locale", Described.text t.locale), ("text", Described.text t.text)]

end LocalizedText

end NodeAccess
