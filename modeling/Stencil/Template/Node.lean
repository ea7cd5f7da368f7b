import Stencil.Markup.Expression

/-!
# Nodes

What a template consists of once it is read: text, outputs and tags, where the tags that enclose a
part of the template hold the nodes of that part.
-/

namespace Stencil.Template

open Stencil.Markup

/-! ## The parts of nodes -/

/-- What changes the course of a loop. -/
inductive Interrupt where
  | breakLoop
  | continueLoop
  deriving DecidableEq, Repr

/-- The directions of counters. -/
inductive Direction where
  | up
  | down
  deriving DecidableEq, Repr

/-- What a loop runs over. -/
inductive LoopSource where
  /-- The integers from the first to the last. -/
  | range (first last : Expression)
  | collection (items : Expression)

/-- How a loop runs. -/
structure LoopHeader where
  /-- The name that each item is bound to. -/
  item : String
  source : LoopSource
  /-- Whether the loop begins at the end. -/
  reversed : Bool
  /-- The greatest number of items. -/
  limit : Option Expression
  /-- The number of items that are passed over. -/
  offset : Option Expression

/-- When a clause of a choice applies. -/
inductive Label where
  /-- The subject is equal to one of the values. -/
  | among (values : List Expression)
  /-- No clause before it applied. -/
  | otherwise

/-- Values that take turns. There is at least one. -/
structure Rotation where
  /-- The name of the tag; the rotations of a tag keep their places together. -/
  tag : String
  group : Option Expression
  first : Expression
  others : List Expression

/-- The values of a rotation. -/
def Rotation.values (r : Rotation) : List Expression :=
  r.first :: r.others

/-- The use of a partial. -/
structure Inclusion where
  /-- Names the partial. -/
  template : Expression
  /-- What the partial's own name is bound to, if it is not what the name is bound to already. -/
  target : Option Expression
  locals : List (String × Expression)

/-! ## Nodes -/

mutual

/-- A part of a template. -/
inductive Node where
  | text (content : String)
  | output (pipeline : Pipeline)
  | conditional (inverted : Bool) (branches : List Branch)
  | loop (tag : String) (header : LoopHeader) (body : List Node) (otherwise : Option (List Node))
  | choice (subject : Expression) (clauses : List Clause)
  | rotation (values : Rotation)
  | assign (name : String) (value : Pipeline)
  | capture (name : String) (body : List Node)
  | comment
  | counter (direction : Direction) (name : String)
  | interrupt (kind : Interrupt)
  | inclusion (use : Inclusion)
  | repetition (times : Expression) (body : List Node)

/-- A branch of a conditional; the last one may have no condition. -/
inductive Branch where
  | mk (condition : Option Condition) (body : List Node)

/-- A clause of a choice. -/
inductive Clause where
  | mk (label : Label) (body : List Node)

end

end Stencil.Template
