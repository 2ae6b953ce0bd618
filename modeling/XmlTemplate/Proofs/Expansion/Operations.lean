import XmlTemplate.Proofs.Expansion.Triple

/-!
# Sessions

Everything that can be done with an expander, one operation after another, each chosen by what
those before gave.

* `Session Op`: programs over operations `Op`. They may fail on their own, go on after a failure,
  and work in calls and with included documents.
* `Session.run`, `Session.Visits`: a session as a computation, and the states that it comes through.
* `Operation`: what an expander does for an input.
-/

namespace XmlTemplate.Expansion

open Markup

/-! ## Sessions -/

/-- Programs over operations. -/
inductive Session (Op : Type → Type) : Type → Type 1 where
  | pure {α : Type} (a : α) : Session Op α
  | bind {α β : Type} (m : Session Op α) (f : α → Session Op β) : Session Op β
  | throw {α : Type} (e : Error) : Session Op α
  | tryCatch {α : Type} (m : Session Op α) (f : Error → Session Op α) : Session Op α
  | operation {α : Type} (op : Op α) : Session Op α
  | call {α : Type} (m : Session Op α) : Session Op α
  | withInclude {α : Type} (href : String) (body : Document → Session Op α) : Session Op α

/-- The state in which a call begins. -/
def State.inCall (s : State) : State :=
  { s with environment := { s.environment with frames := s.environment.frames.push } }

/-- The state in which the content of an included document is dealt with. -/
def State.including (s : State) (uri : Uri) : State :=
  ⟨s.environment.pushInclude uri, s.depth + 1⟩

/-- Operations that an expander can perform. -/
class Performs (Op : Type → Type) where
  perform {α : Type} (options : Options) : Op α → Expand α

namespace Session

variable {Op : Type → Type} [Performs Op] (options : Options)

/-- A session as a computation. -/
def run {α : Type} : Session Op α → Expand α
  | .pure a => Pure.pure a
  | .bind m f => m.run >>= fun a => (f a).run
  | .throw e => MonadExcept.throw e
  | .tryCatch m f => MonadExcept.tryCatch m.run fun e => (f e).run
  | .operation op => Performs.perform options op
  | .call m => Expand.call m.run
  | .withInclude href body => Expansion.withInclude options href fun d => (body d).run

/-- The states that a session comes through from a state: where it and its parts begin and end. -/
inductive Visits : {α : Type} → Session Op α → State → State → Prop where
  | start {α : Type} (p : Session Op α) (s : State) : Visits p s s
  | stop {α : Type} (p : Session Op α) (s : State) : Visits p s ((p.run options).run s).2
  | first {α β : Type} {m : Session Op α} {f : α → Session Op β} {s t : State} :
    Visits m s t → Visits (.bind m f) s t
  | next {α β : Type} {m : Session Op α} {f : α → Session Op β} {s t : State} {a : α} :
    ((m.run options).run s).1 = .ok a → Visits (f a) ((m.run options).run s).2 t →
      Visits (.bind m f) s t
  | tried {α : Type} {m : Session Op α} {f : Error → Session Op α} {s t : State} :
    Visits m s t → Visits (.tryCatch m f) s t
  | caught {α : Type} {m : Session Op α} {f : Error → Session Op α} {s t : State} {e : Error} :
    ((m.run options).run s).1 = .error e → Visits (f e) ((m.run options).run s).2 t →
      Visits (.tryCatch m f) s t
  | called {α : Type} {m : Session Op α} {s t : State} :
    Visits m s.inCall t → Visits (.call m) s t
  | included {α : Type} {href : String} {body : Document → Session Op α} {s t : State} {uri : Uri}
    {d : Document} : options.loader uri = .ok d → Visits (body d) (s.including uri) t →
      Visits (.withInclude href body) s t

end Session

/-! ## What an expander does -/

/-- What an expander does for an input, and the symbols that it has. -/
inductive Operation : Type → Type where
  | define (name : String) (value : Symbol) : Operation Unit
  | lookup (name : String) : Operation (Option Symbol)
  | expandDocument (ws : Whitespace) (d : Document) : Operation (List Node)
  | expandNodes (ws : Whitespace) (nodes : List Node) : Operation (List Node)
  | expandNode (ws : Whitespace) (node : Node) (following : List Node) : Operation (List Node)
  | directive (d : Directive) (ws : Whitespace) (e : Element) (following : List Node) :
    Operation (List Node)
  | invoke (ws : Whitespace) (e : Element) : Operation (List Node)
  | interpolate (ws : Whitespace) (text : String) : Operation (List Node)
  | interpolateText (text : String) : Operation String
  | evalSymbol (ws : Whitespace) (name : String) : Operation (List Node)
  | evalExpr (ws : Whitespace) (source : String) : Operation Expr.Sequence
  | evalNodes (ws : Whitespace) (source : String) : Operation (List Node)
  | evalText (ws : Whitespace) (source : String) : Operation String
  | evalTruth (ws : Whitespace) (source : String) : Operation Bool
  | evalInteger (ws : Whitespace) (source : String) : Operation Int64

instance : Performs Operation where
  perform options
    | .define name value => Expand.define name value
    | .lookup name => do return (← Expand.environment).lookup name
    | .expandDocument ws d => Expander.expandDocument options ws d
    | .expandNodes ws nodes => Expander.expandNodes options ws nodes
    | .expandNode ws node following => Expander.expandNode options ws node following
    | .directive d ws e following => Expander.directive options d ws e following
    | .invoke ws e => Expander.invoke options ws e
    | .interpolate ws text => Expander.interpolate options ws text
    | .interpolateText text => Expander.interpolateText options text
    | .evalSymbol ws name => Expander.evalSymbol options ws name
    | .evalExpr ws source => Expander.evalExpr options ws source
    | .evalNodes ws source => Expander.evalNodes options ws source
    | .evalText ws source => Expander.evalText options ws source
    | .evalTruth ws source => Expander.evalTruth options ws source
    | .evalInteger ws source => Expander.evalInteger options ws source

end XmlTemplate.Expansion
