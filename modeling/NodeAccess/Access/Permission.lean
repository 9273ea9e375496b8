import NodeAccess.Text.Described

/-!
# Permissions

Seventeen permissions, each with a name and one bit of a mask of thirty-two bits. Masks may hold
further bits, which no permission names.
-/

set_option autoImplicit false

namespace NodeAccess

/-- A set of permissions as bits. -/
structure PermissionMask where
  bits : UInt32
deriving DecidableEq, Inhabited

namespace PermissionMask

/-- No permission. -/
def empty : PermissionMask := ⟨0⟩

instance : OrOp PermissionMask := ⟨fun a b => ⟨a.bits ||| b.bits⟩⟩

instance : AndOp PermissionMask := ⟨fun a b => ⟨a.bits &&& b.bits⟩⟩

/-- Is no bit set? -/
def isEmpty (a : PermissionMask) : Bool :=
  a.bits = 0

/-- Is every bit of `b` set in `a`? -/
def contains (a b : PermissionMask) : Bool :=
  a.bits &&& b.bits = b.bits

/-- Is any bit of `b` set in `a`? -/
def intersects (a b : PermissionMask) : Bool :=
  a.bits &&& b.bits ≠ 0

/-- The order of masks as numbers. -/
def order (a b : PermissionMask) : Ordering :=
  compare a.bits b.bits

/-- The mask in hexadecimal. -/
def toText (a : PermissionMask) : String :=
  "0x" ++ String.ofList (Hex.renderFixed 8 a.bits.toNat)

/-- A mask described. -/
def describe (a : PermissionMask) : String :=
  Described.applied "PermissionType" (toString a.bits.toNat)

end PermissionMask

/-- Something that a role may be permitted to do with a node. -/
inductive Permission where
  | browse
  | readRolePermissions
  | writeAttribute
  | writeRolePermissions
  | writeHistorizing
  | read
  | write
  | readHistory
  | insertHistory
  | modifyHistory
  | deleteHistory
  | receiveEvents
  | call
  | addReference
  | removeReference
  | deleteNode
  | addNode
deriving DecidableEq

namespace Permission

/-- Every permission, in the order of their bits. -/
def all : List Permission :=
  [browse, readRolePermissions, writeAttribute, writeRolePermissions, writeHistorizing, read,
    write, readHistory, insertHistory, modifyHistory, deleteHistory, receiveEvents, call,
    addReference, removeReference, deleteNode, addNode]

/-- The bit of a permission. -/
def mask : Permission → PermissionMask
  | browse => ⟨0x1⟩
  | readRolePermissions => ⟨0x2⟩
  | writeAttribute => ⟨0x4⟩
  | writeRolePermissions => ⟨0x8⟩
  | writeHistorizing => ⟨0x10⟩
  | read => ⟨0x20⟩
  | write => ⟨0x40⟩
  | readHistory => ⟨0x80⟩
  | insertHistory => ⟨0x100⟩
  | modifyHistory => ⟨0x200⟩
  | deleteHistory => ⟨0x400⟩
  | receiveEvents => ⟨0x800⟩
  | call => ⟨0x1000⟩
  | addReference => ⟨0x2000⟩
  | removeReference => ⟨0x4000⟩
  | deleteNode => ⟨0x8000⟩
  | addNode => ⟨0x10000⟩

/-- The name of a permission in configurations. -/
def name : Permission → String
  | browse => "browse"
  | readRolePermissions => "read-role-permissions"
  | writeAttribute => "write-attribute"
  | writeRolePermissions => "write-role-permissions"
  | writeHistorizing => "write-historizing"
  | read => "read"
  | write => "write"
  | readHistory => "read-history"
  | insertHistory => "insert-history"
  | modifyHistory => "modify-history"
  | deleteHistory => "delete-history"
  | receiveEvents => "receive-events"
  | call => "call"
  | addReference => "add-reference"
  | removeReference => "remove-reference"
  | deleteNode => "delete-node"
  | addNode => "add-node"

/-- A permission described. -/
def describe : Permission → String
  | browse => "Browse"
  | readRolePermissions => "ReadRolePermissions"
  | writeAttribute => "WriteAttribute"
  | writeRolePermissions => "WriteRolePermissions"
  | writeHistorizing => "WriteHistorizing"
  | read => "Read"
  | write => "Write"
  | readHistory => "ReadHistory"
  | insertHistory => "InsertHistory"
  | modifyHistory => "ModifyHistory"
  | deleteHistory => "DeleteHistory"
  | receiveEvents => "ReceiveEvents"
  | call => "Call"
  | addReference => "AddReference"
  | removeReference => "RemoveReference"
  | deleteNode => "DeleteNode"
  | addNode => "AddNode"

/-- The permission of a name, if it is one. -/
def ofName? (s : String) : Option Permission :=
  all.find? fun p => p.name = s

/-- The bits of all permissions of a list. -/
def maskOf (ps : List Permission) : PermissionMask :=
  ps.foldl (fun m p => m ||| p.mask) .empty

end Permission

end NodeAccess
