import NodeAccess.NodeId.Basic
import NodeAccess.Text.Base64
import NodeAccess.Text.Decimal
import NodeAccess.Text.Described

/-!
# The text of node identifiers

A node identifier is written as `ns=2;s=Pump`: the namespace, left out when it is zero, then a
letter for the kind of the identifier and its body. Numbers are read with a plus sign and leading
zeros too, globally unique identifiers in all their forms, and octets in base64. Every refusal has
one cause, and its message quotes the part of the text that is at fault.
-/

set_option autoImplicit false

namespace NodeAccess

/-- The kinds of identifier whose body can be wrong. -/
inductive IdentifierKind where
  | numeric
  | guid
  | octets
deriving DecidableEq

namespace IdentifierKind

/-- The word for the kind in messages. -/
def word : IdentifierKind → String
  | .numeric => "numeric"
  | .guid => "guid"
  | .octets => "opaque"

end IdentifierKind

/-- Why a text is no node identifier. -/
inductive NodeIdError where
  /-- Nothing follows the namespace, or the whole text is empty. -/
  | missingIdentifier (whole : String)
  /-- The namespace is no number of sixteen bits. -/
  | invalidNamespace (index : String)
  /-- The identifier begins with no known letter and equals sign. -/
  | unknownIdentifierType (whole : String)
  /-- The body is no identifier of its kind. -/
  | invalidIdentifier (kind : IdentifierKind) (body : String)
deriving DecidableEq

namespace NodeIdError

/-- The message for a refusal. -/
def message : NodeIdError → String
  | missingIdentifier whole => "node id is missing an identifier: " ++ Described.text whole
  | invalidNamespace index => "invalid namespace index: " ++ Described.text index
  | unknownIdentifierType whole => "unknown identifier type in " ++ Described.text whole
  | invalidIdentifier kind body =>
    "invalid " ++ kind.word ++ " identifier: " ++ Described.text body

end NodeIdError

namespace Identifier

/-- The text of an identifier. -/
def render : Identifier → List Char
  | .numeric n => 'i' :: '=' :: Decimal.render n.toNat
  | .text s => 's' :: '=' :: s.toList
  | .guid g => 'g' :: '=' :: g.render
  | .octets bs => 'b' :: '=' :: Base64.encode bs

/-- The value of a body, or the complaint that it is none of its kind. -/
def ofBody (kind : IdentifierKind) (body : List Char) :
    Option Identifier → Except NodeIdError Identifier
  | some identifier => .ok identifier
  | none => .error (.invalidIdentifier kind (String.ofList body))

/-- The identifier that a text writes, given the whole text for messages. -/
def read (whole : List Char) : List Char → Except NodeIdError Identifier
  | [] => .error (.missingIdentifier (String.ofList whole))
  | 'i' :: '=' :: body =>
    ofBody .numeric body
      ((Decimal.readUpTo? 4294967295 body).map fun n => .numeric (UInt32.ofNat n))
  | 's' :: '=' :: body => .ok (.text (String.ofList body))
  | 'g' :: '=' :: body => ofBody .guid body ((Guid.read? body).map .guid)
  | 'b' :: '=' :: body => ofBody .octets body ((Base64.decode? body).map .octets)
  | _ => .error (.unknownIdentifierType (String.ofList whole))

/-- An identifier described. -/
def describe : Identifier → String
  | .numeric n => Described.applied "Numeric" (toString n.toNat)
  | .text s => Described.applied "String" (Described.text s)
  | .guid g => Described.applied "Guid" g.toText
  | .octets bs => Described.applied "Opaque" (Described.octets bs)

end Identifier

namespace NodeId

/-- The characters of a node identifier. -/
def render (id : NodeId) : List Char :=
  if id.namespaceIndex = 0 then id.identifier.render
  else 'n' :: 's' :: '=' :: Decimal.render id.namespaceIndex.toNat ++
    ';' :: id.identifier.render

/-- The text of a node identifier. -/
def toText (id : NodeId) : String :=
  String.ofList id.render

/-- The parts of a text before and behind its first semicolon. -/
def splitAtSemicolon? : List Char → Option (List Char × List Char)
  | [] => none
  | c :: cs =>
    if c = ';' then some ([], cs)
    else (splitAtSemicolon? cs).map fun (before, behind) => (c :: before, behind)

/-- The node identifier that a list of characters writes, or why there is none. -/
def readChars (cs : List Char) : Except NodeIdError NodeId :=
  match cs with
  | 'n' :: 's' :: '=' :: tail =>
    match splitAtSemicolon? tail with
    | none => .error (.missingIdentifier (String.ofList cs))
    | some (index, rest) =>
      match Decimal.readUpTo? 65535 index with
      | none => .error (.invalidNamespace (String.ofList index))
      | some n => (Identifier.read cs rest).map fun i => ⟨UInt16.ofNat n, i⟩
  | _ => (Identifier.read cs cs).map fun i => ⟨0, i⟩

/-- The node identifier that a text writes, or why there is none. -/
def read (s : String) : Except NodeIdError NodeId :=
  readChars s.toList

/-- The node identifier that a text writes, if any. -/
def read? (s : String) : Option NodeId :=
  (read s).toOption

/-- A node identifier described. -/
def describe (id : NodeId) : String :=
  Described.record "NodeId"
    [("namespace", toString id.namespaceIndex.toNat), ("identifier", id.identifier.describe)]

end NodeId

end NodeAccess
