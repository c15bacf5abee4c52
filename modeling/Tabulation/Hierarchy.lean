/-
Type hierarchies: named types and the links to their direct super types. Queries read the links as
they are now; nothing is cached.
-/

import Tabulation.Search

namespace Tabulation

open Tabulation.Text (sortTexts)

/-- The names of a hierarchy in the order of their addition, and its direct links from a type to a
super type. -/
structure Hierarchy where
  names : List String := []
  links : List (String × String) := []
deriving Repr, DecidableEq, Inhabited

namespace Hierarchy

/-- The hierarchy without types. -/
def empty : Hierarchy := {}

def addName (h : Hierarchy) (name : String) : Hierarchy :=
  if h.names.contains name then h else { h with names := h.names ++ [name] }

/-- Makes `super` known as a direct super type of `name`. The empty name and the type itself are no
super types. -/
def addLink (name : String) (h : Hierarchy) (super : String) : Hierarchy :=
  if super == "" || super == name then h
  else
    let known := h.addName super
    if known.links.contains (name, super) then known
    else { known with links := known.links ++ [(name, super)] }

/-- Adds a type with its direct super types, which become known as well. -/
def addType (h : Hierarchy) (name : String) (supers : List String) : Hierarchy :=
  supers.foldl (addLink name) (h.addName name)

def has (h : Hierarchy) (name : String) : Bool := h.names.contains name

/-- All names, sorted. -/
def types (h : Hierarchy) : List String := sortTexts h.names

/-- The direct super types of a type, sorted. -/
def supers (h : Hierarchy) (name : String) : List String :=
  sortTexts ((h.links.filter fun link => link.1 == name).map Prod.snd)

def directSubtypes (h : Hierarchy) (name : String) : List String :=
  (h.links.filter fun link => link.2 == name).map Prod.fst

/-- Ways to go down from a type to those below it. -/
structure Descent where
  /-- Whether links lead down from the first of two types to the second. -/
  leads : Hierarchy → (super sub : String) → Bool
  /-- A type and all those below it, as they are visited. -/
  visits : Hierarchy → (name : String) → List String

/-- A type with all its transitive subtypes, in breadth-first order. -/
def descendants (h : Hierarchy) (name : String) : List String :=
  Search.reach (h.names.length + 1) h.directSubtypes [name]

def Descent.breadthFirst : Descent where
  leads h super sub := (h.descendants super).contains sub
  visits := descendants

/-- The transitive subtypes of a known type, itself excluded, as they are visited. -/
def subtypes (h : Hierarchy) (name : String) (descent : Descent := .breadthFirst) : List String :=
  if h.has name then (descent.visits h name).filter (· != name) else []

/-- Whether `sub` is `super` or one of its transitive subtypes. -/
def isSubtype (h : Hierarchy) (sub super : String) (descent : Descent := .breadthFirst) : Bool :=
  sub == super || (h.has sub && h.has super && descent.leads h super sub)

end Hierarchy

end Tabulation
