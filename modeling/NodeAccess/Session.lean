import NodeAccess.Guid
import NodeAccess.Server

/-!
# Sessions

A session is a user of a server together with the roles that the user holds, which do not change. A
request comes from a session, or from the server itself, which holds no role at all.
-/

set_option autoImplicit false

namespace NodeAccess

/-- A user of a server. -/
structure Session where
  id : Guid
  roles : List NodeId
  server : Server

/-- Who makes a request. -/
structure RequestContext where
  session : Option Session := none
deriving Inhabited

namespace RequestContext

/-- A request that no session makes. -/
def background : RequestContext := {}

/-- A request of a session. -/
def ofSession (session : Session) : RequestContext where
  session := some session

end RequestContext

end NodeAccess
