import XmlTemplate.Expr.Eval
import XmlTemplate.Symbol

/-!
# The environment of an expansion

What an expansion remembers: the symbols in force, the documents that are open, and the
expressions that have been read lately.

* `Cache`: the latest expressions, at most as many as its capacity.
* `Environment`: symbols, open documents and cache.
-/

namespace XmlTemplate

/-- Expressions that have been read, the one used last in front. -/
structure Cache where
  capacity : Nat
  entries : List (String × Expression)
deriving Inhabited

namespace Cache

/-- A cache that holds nothing yet. A capacity of zero keeps it that way. -/
def ofCapacity (capacity : Nat) : Cache := ⟨capacity, []⟩

/-- The cache with an entry in front. Entries beyond the capacity are given up. -/
def insert (c : Cache) (source : String) (e : Expression) : Cache :=
  { c with entries := ((source, e) :: c.entries.filter (·.1 != source)).take c.capacity }

end Cache

/-- The symbols in force, the documents that are open from the inside out, and the cache. -/
structure Environment where
  frames : Frames
  includes : List Uri
  cache : Cache
deriving Inhabited

namespace Environment

/-- An environment without symbols and documents. -/
def ofCapacity (capacity : Nat) : Environment := ⟨.empty, [], .ofCapacity capacity⟩

/-- The environment with a name bound in the innermost frame. -/
def define (env : Environment) (name : String) (value : Symbol) : Environment :=
  { env with frames := env.frames.define name value }

/-- The environment with a name bound to a text. -/
def defineText (env : Environment) (name value : String) : Environment :=
  env.define name (.text value)

/-- The environment with a name bound to nodes. -/
def defineNodes (env : Environment) (name : String) (nodes : List Markup.Node) : Environment :=
  env.define name (.nodes nodes)

/-- What a name is bound to. -/
def lookup (env : Environment) (name : String) : Option Symbol := env.frames.lookup name

/-- Whether a name is bound. -/
def isDefined (env : Environment) (name : String) : Bool := env.frames.isDefined name

/-- The number of frames. -/
def depth (env : Environment) : Nat := env.frames.depth

/-- Whether a document is being expanded. URIs are the same if they are written the same. -/
def isOpen (env : Environment) (uri : Uri) : Bool :=
  env.includes.any (·.toText == uri.toText)

/-- The innermost document that is open, which references are resolved against. -/
def currentDocument? (env : Environment) : Option Uri := env.includes.head?

/-- The environment with one more document open. -/
def pushInclude (env : Environment) (uri : Uri) : Environment :=
  { env with includes := uri :: env.includes }

/-- The environment without the innermost document. -/
def popInclude (env : Environment) : Environment := { env with includes := env.includes.tail }

/-- The expression that a text holds, and the environment that remembers it. Texts that hold none
are not remembered. -/
def expression (env : Environment) (source : String) : Except Expr.Error Expression × Environment :=
  match env.cache.entries.lookup source with
  | some e => (.ok e, { env with cache := env.cache.insert source e })
  | none =>
    match Expression.parse source with
    | .ok e => (.ok e, { env with cache := env.cache.insert source e })
    | .error e => (.error e, env)

end Environment

end XmlTemplate
