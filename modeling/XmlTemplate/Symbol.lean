import XmlTemplate.Markup.Node

/-!
# Symbols and their scopes

A symbol is bound to a text, or to nodes that are expanded where the symbol is used. Bindings
live in frames; a frame in front hides the bindings of those behind it.

* `Symbol`: what a name is bound to.
* `Frames`: the frames in force. There is always at least one.
-/

namespace XmlTemplate

/-- What a name is bound to. -/
inductive Symbol where
  | text (value : String)
  | nodes (value : List Markup.Node)
deriving Inhabited

/-- Bindings of one scope, the latest first. -/
abbrev Frame := List (String × Symbol)

/-- The frames in force: the innermost one, and those around it from the inside out. -/
structure Frames where
  inner : Frame
  outer : List Frame
deriving Inhabited

namespace Frames

/-- One empty frame. -/
def empty : Frames := ⟨[], []⟩

/-- The number of frames. -/
def depth (f : Frames) : Nat := f.outer.length + 1

/-- All frames from the inside out. -/
def toList (f : Frames) : List Frame := f.inner :: f.outer

/-- The frames with an empty one in front. -/
def push (f : Frames) : Frames := ⟨[], f.toList⟩

/-- The frames without the innermost one, unless it is the last. -/
def pop (f : Frames) : Frames :=
  match f.outer with
  | [] => f
  | next :: rest => ⟨next, rest⟩

/-- The frames with a name bound in the innermost one. -/
def define (f : Frames) (name : String) (value : Symbol) : Frames :=
  { f with inner := (name, value) :: f.inner }

/-- What a name is bound to in the innermost frame that binds it. -/
def lookup (f : Frames) (name : String) : Option Symbol := f.toList.findSome? (·.lookup name)

/-- Whether a name is bound. -/
def isDefined (f : Frames) (name : String) : Bool := (f.lookup name).isSome

theorem lookup_define_self (f : Frames) (name : String) (value : Symbol) :
    (f.define name value).lookup name = some value := by
  simp [lookup, define, toList]

theorem lookup_define_of_ne (f : Frames) {name other : String} (value : Symbol) (h : other ≠ name) :
    (f.define name value).lookup other = f.lookup other := by
  have : (other == name) = false := by simpa using h
  simp [lookup, define, toList, List.findSome?_cons, List.lookup_cons, this]

end Frames

end XmlTemplate
