/-
A hierarchy in use. It keeps its answers to questions about subtypes, and forgets all of them when a
type is added.
-/

import Tabulation.Hierarchy
import Tabulation.Memo

namespace Tabulation.Hierarchy

/-- A hierarchy with the answers given since the last type was added. -/
structure Session where
  types : Hierarchy := .empty
  /-- The subtypes of the known types that were asked for. -/
  listed : Memo String (List String) := {}
  /-- Whether the first of two known types is a subtype of the second. -/
  related : Memo (String × String) Bool := {}
deriving Repr, DecidableEq

/-- What a session is asked to do. -/
inductive Request where
  | addType (name : String) (supers : List String)
  | isSubtype (sub super : String)
  | subtypes (name : String)
deriving Repr, DecidableEq

/-- What a request came to. -/
inductive Answer where
  | added
  | isSubtype (holds : Bool)
  | subtypes (names : List String)
deriving Repr, DecidableEq

/-- The types below a type, as they are visited. -/
def Descent.below (descent : Descent) (h : Hierarchy) (name : String) : List String :=
  (descent.visits h name).filter (· != name)

/-- Whether links lead from the first type up to the second. -/
def Descent.leadsUp (descent : Descent) (h : Hierarchy) (pair : String × String) : Bool :=
  descent.leads h pair.2 pair.1

namespace Session

/-- Adds a type. What was answered so far may no longer hold. -/
def addType (session : Session) (name : String) (supers : List String) : Session :=
  { types := session.types.addType name supers }

/-- Whether `sub` is `super` or one of its transitive subtypes. Only known types are searched for, and
only their answer is kept. -/
def isSubtype (session : Session) (sub super : String) (descent : Descent := .breadthFirst) :
    Bool × Session :=
  if sub == super then (true, session)
  else if !session.types.has sub || !session.types.has super then (false, session)
  else
    let (holds, related) := session.related.ask (descent.leadsUp session.types) (sub, super)
    (holds, { session with related })

/-- The transitive subtypes of a known type, itself excluded. -/
def subtypes (session : Session) (name : String) (descent : Descent := .breadthFirst) :
    List String × Session :=
  if session.types.has name then
    let (names, listed) := session.listed.ask (descent.below session.types) name
    (names, { session with listed })
  else ([], session)

def handle (descent : Descent) (session : Session) : Request → Answer × Session
  | .addType name supers => (.added, session.addType name supers)
  | .isSubtype sub super =>
    let (holds, next) := session.isSubtype sub super descent
    (.isSubtype holds, next)
  | .subtypes name =>
    let (names, next) := session.subtypes name descent
    (.subtypes names, next)

def serve (descent : Descent) (session : Session) : List Request → List Answer × Session
  | [] => ([], session)
  | request :: rest =>
    let (answer, next) := session.handle descent request
    let (answers, last) := next.serve descent rest
    (answer :: answers, last)

end Session

end Tabulation.Hierarchy
