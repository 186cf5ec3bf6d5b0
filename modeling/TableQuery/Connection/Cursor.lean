import TableQuery.Connection.Link

/-!
# Cursor scopes

A cursor is opened on entry to a scope and closed on leaving it. A scope that was never entered has
no cursor to close.
-/

namespace TableQuery

structure CursorScope where
  connection : ConnectionId
  isOpen : Bool := false

/-- What one move of a scope comes to: the result, the scope, the call that was made, and the
replies that are left. -/
structure CursorMove where
  result : Except Fault Unit
  scope : CursorScope
  calls : List NetworkCall
  replies : Replies

namespace CursorScope

def enter (s : CursorScope) (rs : Replies) : CursorMove :=
  let (result, cursors) := nextReply rs.cursors
  { result, scope := { s with isOpen := s.isOpen || result.toBool },
    calls := [.openCursor s.connection], replies := { rs with cursors } }

def leave (s : CursorScope) (rs : Replies) : CursorMove :=
  if s.isOpen then
    let (result, cursorCloses) := nextReply rs.cursorCloses
    { result, scope := s, calls := [.closeCursor s.connection], replies := { rs with cursorCloses } }
  else { result := .ok (), scope := s, calls := [], replies := rs }

end CursorScope

end TableQuery
