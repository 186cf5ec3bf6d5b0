/-!
# Statement kinds

A builder commits to one kind when it compiles a statement, and each kind refuses some of the
clauses that a builder can hold.
-/

namespace TableQuery

inductive Kind where
  | select
  | insert
  | update
  | delete
  deriving DecidableEq, Inhabited

inductive ClauseGroup where
  | only
  | orderBy
  | limit
  | offset
  | condition
  | join
  deriving DecidableEq

def Kind.keyword : Kind → String
  | .select => "SELECT"
  | .insert => "INSERT"
  | .update => "UPDATE"
  | .delete => "DELETE"

def Kind.all : List Kind := [.select, .insert, .update, .delete]

def Kind.ofKeyword? (s : String) : Option Kind := Kind.all.find? fun k => k.keyword == s

def ClauseGroup.name : ClauseGroup → String
  | .only => "only"
  | .orderBy => "order_by"
  | .limit => "limit"
  | .offset => "offset"
  | .condition => "where"
  | .join => "join"

def Kind.forbidden : Kind → List ClauseGroup
  | .select => []
  | .insert => [.only, .orderBy, .limit, .offset, .condition, .join]
  | .update => [.only, .orderBy, .limit, .offset]
  | .delete => [.only, .orderBy, .limit, .offset]

end TableQuery
