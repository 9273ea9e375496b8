import NodeAccess.Number.Shortest
import NodeAccess.Settings.Basic

/-!
# Settings as trees

Files and the environment give settings as trees of tables, arrays and plain values. Settings are
found in a tree in one of two ways: strictly, where a text must be given as a text, or leniently,
where numbers and truth values stand for their text. Both take a record from a table, whatever
further keys it has, or from an array that lists its fields in order.
-/

set_option autoImplicit false

namespace NodeAccess

/-- A tree of settings; the keys of a table differ from each other. -/
inductive Tree where
  /-- A place in an array that was never set. -/
  | unset
  | boolean (value : Bool)
  | integer (value : Int)
  | float (value : Binary64)
  | string (value : String)
  /-- A date, a time of day or both, by its text. -/
  | dateTime (text : String)
  | array (items : List Tree)
  | table (entries : List (String × Tree))

namespace Tree

instance : Inhabited Tree := ⟨unset⟩

/-- The entries of a table; none for any other tree. -/
def entries : Tree → List (String × Tree)
  | table es => es
  | _ => []

/-- The items of an array; none for any other tree. -/
def items : Tree → List Tree
  | array ts => ts
  | _ => []

mutual

/-- Do all integers of the tree lie between the bounds? -/
def integersWithin (low high : Int) : Tree → Bool
  | integer i => low ≤ i && i ≤ high
  | array ts => itemsWithin low high ts
  | table es => entriesWithin low high es
  | _ => true

/-- Do all integers of several trees lie between the bounds? -/
def itemsWithin (low high : Int) : List Tree → Bool
  | [] => true
  | t :: ts => integersWithin low high t && itemsWithin low high ts

/-- Do all integers of several entries lie between the bounds? -/
def entriesWithin (low high : Int) : List (String × Tree) → Bool
  | [] => true
  | (_, t) :: es => integersWithin low high t && entriesWithin low high es

end

/-- How plain values are taken. -/
structure Reading where
  /-- The text that a tree gives, if any. -/
  text? : Tree → Option String
  /-- May the tree stand beside the name of a permission? -/
  isBlankContent : Tree → Bool

/-- A text is given as a text; beside a name stands an empty table or array. -/
def strict : Reading where
  text?
    | string s => some s
    | _ => none
  isBlankContent
    | array [] => true
    | table [] => true
    | _ => false

/-- Numbers, truth values and dates stand for their text; anything stands beside a name. -/
def lenient : Reading where
  text?
    | string s => some s
    | boolean b => some (if b then "true" else "false")
    | integer i => some (String.ofList (Decimal.renderInt i))
    | float x => some (x.render .text)
    | dateTime s => some s
    | _ => none
  isBlankContent _ := true

/-- The field of a record: by its name in a table, by its place in an array. -/
def field? (t : Tree) (name : String) (place : Nat) : Option Tree :=
  match t with
  | table es => es.lookup name
  | array ts => ts[place]?
  | _ => none

/-- Can the tree be a record? -/
def isRecord : Tree → Bool
  | table _ => true
  | array _ => true
  | _ => false

/-- The results of a partial function on all trees, if it accepts each of them. -/
def collect {α : Type} (f : Tree → Option α) : List Tree → Option (List α)
  | [] => some []
  | t :: ts =>
    match f t, collect f ts with
    | some a, some as => some (a :: as)
    | _, _ => none

/-- The results of a partial function on the items of an array. -/
def list? {α : Type} (f : Tree → Option α) : Tree → Option (List α)
  | array ts => collect f ts
  | _ => none

/-- What a field gives, or a value for when it is missing. -/
def withDefault {α : Type} (t : Option Tree) (f : Tree → Option α) (value : α) : Option α :=
  match t with
  | some t => f t
  | none => some value

variable (r : Reading)

/-- A permission: its name, or a table whose only key is its name. -/
def permission? : Tree → Option Permission
  | string s => Permission.ofName? s
  | table [(name, content)] =>
    if r.isBlankContent content then Permission.ofName? name else none
  | _ => none

/-- A role setting. -/
def roleSetting? (t : Tree) : Option RoleSetting := do
  let role ← t.field? "role" 0
  let role ← r.text? role
  let role ← NodeId.read? role
  let permissions ← withDefault (t.field? "permissions" 1) (list? (permission? r)) []
  some { role, permissions }

/-- Server information. -/
def serverInfo? (t : Tree) : Option ServerInfo := do
  guard t.isRecord
  let standard := ServerInfo.standard
  let applicationName ←
    withDefault (t.field? "application_name" 0) r.text? standard.applicationName
  let applicationUri ← withDefault (t.field? "application_uri" 1) r.text? standard.applicationUri
  let productUri ← withDefault (t.field? "product_uri" 2) r.text? standard.productUri
  some { applicationName, applicationUri, productUri }

/-- Security settings. -/
def securitySettings? (t : Tree) : Option SecuritySettings := do
  guard t.isRecord
  let defaultRoles ←
    withDefault (t.field? "default_role_permissions" 0) (list? (roleSetting? r)) []
  some { defaultRoles }

/-- The settings that a tree gives. -/
def settings? (t : Tree) : Option Settings := do
  guard t.isRecord
  let server ← withDefault (t.field? "server" 0) (serverInfo? r) .standard
  let security ← withDefault (t.field? "security" 1) (securitySettings? r) .standard
  some { server, security }

end Tree

namespace Settings

/-- The settings for nothing configured as the entries of a tree. -/
def standardEntries : List (String × Tree) :=
  [("server", .table
    [("application_name", .string ServerInfo.standard.applicationName),
      ("application_uri", .string ServerInfo.standard.applicationUri),
      ("product_uri", .string ServerInfo.standard.productUri)])]

end Settings

end NodeAccess
