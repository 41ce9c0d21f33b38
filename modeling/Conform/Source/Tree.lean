import Conform.Number.Basic
import Conform.Source.Position

/-!
# Schema expressions

The expressions that schema sources are made of: names, literals, arrays, objects, member access and
calls. Each node carries the stretch of source it was read from.

## Main definitions

- `Scalar` — the values that literals denote
- `Expr` — expressions
- `Expr.label` — the short form that messages use
- `Expr.walk` — all nodes, parents first
-/

namespace Conform

/-- A value without parts. -/
inductive Scalar
  | undefined
  | null
  | bool (b : Bool)
  | number (n : Number)
  | text (t : Text)
  deriving DecidableEq

/-- The key of a property of an object expression, with the stretch of the whole property. -/
structure PropertyKey where
  span : Span
  name : Text
  deriving DecidableEq

/-- An expression. -/
inductive Expr
  | identifier (span : Span) (text : Text)
  | literal (span : Span) (value : Scalar)
  | regex (span : Span) (source flags : Text)
  | array (span : Span) (elements : List Expr)
  | object (span : Span) (properties : List (PropertyKey × Expr))
  | member (span : Span) (target : Expr) (name : Text)
  | call (span : Span) (callee : Expr) (arguments : List Expr)

/-- The name of a literal's type. -/
def Scalar.typeName : Scalar → Text
  | .undefined => "undefined"
  | .null => "null"
  | .bool _ => "boolean"
  | .number _ => "number"
  | .text _ => "string"

/-- The sorts of nodes that a walk passes. -/
inductive NodeSort
  | identifier
  | literal
  | regex
  | array
  | object
  | property
  | member
  | call
  deriving DecidableEq, Repr

namespace Expr

/-- The stretch of source an expression was read from. -/
def span : Expr → Span
  | .identifier s _ | .literal s _ | .regex s _ _ | .array s _ | .object s _ | .member s _ _
  | .call s _ _ => s

/-- The short form of an expression in messages. -/
def label : Expr → Text
  | .identifier _ text => text
  | .literal _ value => value.typeName
  | .regex _ _ _ => "regular expression"
  | .array _ _ => "array literal"
  | .object _ _ => "object literal"
  | .member _ target name => target.label ++ "." ++ name
  | .call _ callee _ => callee.label ++ "(...)"

mutual

/-- The sorts of all nodes, each parent before its children and children in source order. -/
def walk : Expr → List NodeSort
  | .identifier _ _ => [.identifier]
  | .literal _ _ => [.literal]
  | .regex _ _ _ => [.regex]
  | .array _ elements => .array :: walkAll elements
  | .object _ properties => .object :: walkProperties properties
  | .member _ target _ => .member :: walk target
  | .call _ callee arguments => .call :: (walk callee ++ walkAll arguments)

/-- The walks of several expressions in a row. -/
def walkAll : List Expr → List NodeSort
  | [] => []
  | e :: es => walk e ++ walkAll es

/-- The walks of properties in a row. -/
def walkProperties : List (PropertyKey × Expr) → List NodeSort
  | [] => []
  | (_, e) :: ps => .property :: (walk e ++ walkProperties ps)

end

end Expr

end Conform
