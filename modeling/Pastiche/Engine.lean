import Pastiche.Directive.Parser
import Pastiche.Fetcher
import Pastiche.Operation.Builtin
import Pastiche.Pattern.Generate

/-!
The engine expands templates. A directive stands for an operation or for data, and data is a
template itself; operation results and arguments already expanded are not looked at again. How deep
all this may be nested is limited, and the expansion recurses on the depth that is left.
-/

namespace Pastiche

structure Engine where
  config : Config
  registry : Registry
  store : Store

namespace Engine

variable {σ : Type} [Source σ]

def fetcher (engine : Engine) : Fetcher := ⟨engine.store, engine.config.locale⟩

def generate (engine : Engine) : Generator → Run σ String
  | .numerify pattern => Run.lift (Run.draw (numerify pattern))
  | .letterify pattern case => Run.lift (Run.draw (letterify pattern case))
  | .bothify pattern => Run.lift (Run.draw (bothify pattern))
  | .bothifyWith pattern case => Run.lift (Run.draw (bothifyWith pattern case))
  | .regexify pattern =>
    match Pattern.parse pattern engine.config.maxRepeat with
    | .ok tree => Run.lift (Run.draw tree.sample)
    | .error flaw => throw (.invalidPattern pattern flaw)

def splice (evaluate : List Char → Run σ String) : List Directive.Segment → Run σ String
  | [] => pure ""
  | .text content :: rest => do
    pure (String.ofList content ++ (← splice evaluate rest))
  | .directive token :: rest => do
    let text ← evaluate token
    pure (text ++ (← splice evaluate rest))

def respond (engine : Engine) : (request : Request) → StateM (Session σ) request.Answer
  | .fetch key => (engine.fetcher.fetch key).run
  | .fetchList key => (engine.fetcher.fetchList key).run
  | .lookup key => engine.fetcher.lookup key
  | .generate generator => (engine.generate generator).run
  | .draw bound => Run.draw (Source.draw bound)
  | .scope name => pure ((engine.registry.namespace? name).map Namespace.scope)
  | .count counter => Run.count counter

def namespaceAt (engine : Engine) (own : Namespace) : Place → Namespace
  | .own => own
  | .root => engine.registry.root
  | .named name => (engine.registry.namespace? name).getD engine.registry.root

/-- What a directive is dispatched with: how templates inside it expand in a namespace, how they
expand as if they stood alone, and how deep it is. -/
structure Context (σ : Type) where
  expand : Namespace → String → Run σ String
  restart : Namespace → String → Run σ String
  depth : Nat

def perform (engine : Engine) (context : Context σ) (own : Namespace) {α : Type} :
    Plan α → StateM (Session σ) α
  | .done result => pure result
  | .ask request next => do
    let answer ← engine.respond request
    perform engine context own (next answer)
  | .resolve key next => do
    let answer ← (engine.fetcher.fetch key >>= context.expand own).run
    perform engine context own (next answer)
  | .expression template next => do
    let answer ← (context.expand own template).run
    perform engine context own (next answer)
  | .expand place template next => do
    let answer ← (context.restart (engine.namespaceAt own place) template).run
    perform engine context own (next answer)

/-- The fault of a directive whose operation failed. Only the depth limit shows through. -/
def fold (token : String) (error : OperationError) : Run σ String :=
  match error with
  | .engine (.tooDeep inner limit) => throw (.tooDeep inner limit)
  | error => do
    Run.lift (Run.note (.failed token error))
    throw (.unresolved token)

/-- The key in its usual form, if that is another one. -/
def otherKey? (key : String) : Option String :=
  let snake := Name.snake key
  if snake = key then none else some snake

/-- The data at a key or else at its usual form. -/
def data? (engine : Engine) (key : String) : StateM (Session σ) (Option String) := do
  match ← engine.fetcher.fetch? key with
  | some template => pure (some template)
  | none =>
    match otherKey? key with
    | some other => engine.fetcher.fetch? other
    | none => pure none

/-- Expands the arguments in the namespace of the caller and calls the operation. -/
def invoke (engine : Engine) (context : Context σ) (directive : Directive) (caller : Namespace)
    (space : Namespace) (name : String) (operation : Operation) : Run σ String := do
  match ← Run.lift (directive.arguments.mapM (context.expand caller)).run with
  | .error fault => fold directive.token (.engine fault)
  | .ok arguments => do
    let depth := context.depth + 1
    Run.lift (Run.note (.called space.name name arguments depth))
    let plan := (operation ⟨arguments, space.scope, depth⟩).run
    match ← Run.lift (engine.perform context space plan) with
    | .ok text => pure text
    | .error error => fold directive.token error

def giveUp (directive : Directive) (target : Namespace) : Run σ String := do
  Run.lift (Run.note (.unmatched directive.token target.name))
  throw (.unresolved directive.token)

/-- A reference without a namespace: an operation of the target, its data, an operation of the
root. -/
def dispatchMember (engine : Engine) (context : Context σ) (directive : Directive)
    (target : Namespace) : Run σ String := do
  let member := directive.reference
  match target.get? member with
  | some operation => engine.invoke context directive target target member operation
  | none =>
    match ← Run.lift (engine.data? (target.dataKey member)) with
    | some template => context.expand target template
    | none =>
      match engine.registry.root.get? member with
      | some operation =>
        engine.invoke context directive target engine.registry.root member operation
      | none => giveUp directive target

/-- A reference with a namespace: an operation there, or data under the whole reference. -/
def dispatchQualified (engine : Engine) (context : Context σ) (directive : Directive)
    (target : Namespace) (name member : String) : Run σ String := do
  let space := engine.registry.namespace? name
  match space.bind fun space => (space.get? member).map (space, ·) with
  | some (space, operation) => engine.invoke context directive target space member operation
  | none =>
    match ← Run.lift (engine.data? directive.reference) with
    | some template => context.expand (space.getD target) template
    | none => giveUp directive target

/-- The parts of a reference before and after its first dot. -/
def qualified? (reference : String) : Option (String × String) :=
  match reference.toList.dropWhile (· != '.') with
  | [] => none
  | _ :: member =>
    some (String.ofList (reference.toList.takeWhile (· != '.')), String.ofList member)

def dispatch (engine : Engine) (context : Context σ) (directive : Directive)
    (target : Namespace) : Run σ String := do
  Run.lift (Run.note (.dispatched directive.token context.depth))
  match qualified? directive.reference with
  | none => engine.dispatchMember context directive target
  | some (name, member) => engine.dispatchQualified context directive target name member

def evaluate (engine : Engine) (context : Context σ) (target : Namespace) (token : List Char) :
    Run σ String :=
  match Directive.parse? (String.ofList token) with
  | some directive => engine.dispatch context directive target
  | none => do
    Run.lift (Run.note (.malformed (String.ofList token)))
    throw (.unresolved (String.ofList token))

/-- Expands a template with so much depth left. Where none is left, a directive is a fault. -/
def expandWithin (engine : Engine) (restart : Namespace → String → Run σ String) :
    (left : Nat) → Namespace → String → Run σ String
  | 0, _, template =>
    splice (fun token => throw (.tooDeep (String.ofList token) engine.config.maxDepth))
      (Directive.segments template.toList)
  | left + 1, target, template =>
    let context : Context σ :=
      ⟨expandWithin engine restart left, restart, engine.config.maxDepth - (left + 1)⟩
    splice (engine.evaluate context target) (Directive.segments template.toList)

/-- How many expansions that operations start anew may stand inside one another. Each takes memory,
so this is more than any run can reach. -/
def maxRestarts : Nat := Word.largest 62

/-- Expands a template anew, with the whole depth. -/
def restartWithin (engine : Engine) : (restarts : Nat) → Namespace → String → Run σ String
  | 0, _, template => throw (.tooDeep template engine.config.maxDepth)
  | restarts + 1, target, template =>
    engine.expandWithin (restartWithin engine restarts) engine.config.maxDepth target template

def expression (engine : Engine) (template : String) (target : Namespace) : Run σ String :=
  engine.expandWithin (engine.restartWithin maxRestarts) engine.config.maxDepth target template

def resolve (engine : Engine) (key : String) (target : Namespace) : Run σ String := do
  let template ← engine.fetcher.fetch key
  engine.expression template target

def expand (engine : Engine) (template : String) : Run σ String :=
  engine.expression template engine.registry.root

/-- An engine for data that there is: the locale or its language has some. -/
def build (config : Config) (registry : Registry) (store : Option Store) : Run σ Engine := do
  match config.flaw?, store with
  | some flaw, _ => throw (.config flaw)
  | none, none => throw (.config .noStore)
  | none, some store => do
    if store.hasLocale config.locale || store.hasLocale config.locale.withoutCountry then
      Run.lift (Run.note (.ready config.locale.chain registry.namespaces.length))
      pure ⟨config, registry, store⟩
    else
      Run.lift (Run.note (.unsupported config.locale))
      throw (.unsupportedLocale config.locale)

end Engine

end Pastiche
