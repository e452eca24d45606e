import Pastiche.Proofs.Directive.Reference
import Pastiche.Proofs.Engine.Dispatch
import Pastiche.Proofs.Fetcher

/-!
What a directive is replaced by. The candidates for its reference stand in an order; the first one
that exists is used, whatever comes of it, and none behind it is looked at.
-/

namespace Pastiche

variable {σ α β : Type}

/-- The steps are made one after another, each in the session that the one before leaves, up to the
first that fails. -/
inductive InTurn (run : α → Run σ β) :
    List α → Session σ → Except Fault (List β) × Session σ → Prop where
  | nil {session : Session σ} : InTurn run [] session (.ok [], session)
  | cons {a : α} {rest : List α} {b : β} {session middle after : Session σ}
      {result : Except Fault (List β)} (hfirst : run a session = (.ok b, middle))
      (hrest : InTurn run rest middle (result, after)) :
      InTurn run (a :: rest) session (result.map (b :: ·), after)
  | stop {a : α} {rest : List α} {fault : Fault} {session after : Session σ}
      (hfirst : run a session = (.error fault, after)) :
      InTurn run (a :: rest) session (.error fault, after)

theorem mapM_eq_of_inTurn {run : α → Run σ β} {list : List α} {session : Session σ}
    {outcome : Except Fault (List β) × Session σ} (h : InTurn run list session outcome) :
    (list.mapM run).run session = outcome := by
  induction h with
  | nil => rfl
  | stop hfirst =>
    rw [List.mapM_cons]
    exact Run.bind_of_error hfirst
  | @cons a rest b session middle after result hfirst hrest ih =>
    rw [List.mapM_cons]
    refine (Run.bind_of_ok hfirst).trans ?_
    cases result with
    | ok bs => exact Run.bind_of_ok ih
    | error fault => exact Run.bind_of_error ih

theorem exists_inTurn (run : α → Run σ β) (list : List α) (session : Session σ) :
    ∃ result after, InTurn run list session (result, after) := by
  induction list generalizing session with
  | nil => exact ⟨_, _, .nil⟩
  | cons a rest ih =>
    obtain ⟨⟨first, middle⟩, hfirst⟩ : ∃ outcome, run a session = outcome := ⟨_, rfl⟩
    cases first with
    | error fault => exact ⟨_, _, .stop hfirst⟩
    | ok b =>
      obtain ⟨result, after, hrest⟩ := ih middle
      exact ⟨_, _, .cons hfirst hrest⟩

/-- What a reference may stand for: an operation of a namespace, or the data at a key, which is
expanded in a namespace. -/
inductive Candidate where
  | operation (space : Namespace) (name : String)
  | data (space : Namespace) (key : String)

namespace Engine

variable {engine : Engine}

/-- The leaf at a key in the first locale of the chain that has one. -/
def leaf? (engine : Engine) (key : String) : Option Entry :=
  engine.fetcher.chain.findSome? fun locale => engine.store.lookup locale key

def probes (engine : Engine) (key : String) : List Event :=
  Fetcher.probesIn engine.store key engine.fetcher.chain

/-- A key and its usual form, if that is another one. -/
def spellings (key : String) : List String :=
  if Name.snake key = key then [key] else [key, Name.snake key]

theorem spellings_eq (key : String) : spellings key = key :: (otherKey? key).toList := by
  unfold spellings otherKey?
  by_cases hform : Name.snake key = key
  · simp [hform]
  · simp [hform]

/-- The candidates for a reference in their order. A reference without a dot is a member of the
target or else of the root; what stands before the first dot of another one names a namespace. -/
inductive Candidates (engine : Engine) (reference : String) (target : Namespace) :
    List Candidate → Prop where
  | member (hdot : '.' ∉ reference.toList) :
      Candidates engine reference target
        (.operation target reference ::
          (spellings (target.dataKey reference)).map (.data target) ++
            [.operation engine.registry.root reference])
  | qualified {name member : String} {space : Namespace}
      (hreference : reference = name ++ "." ++ member) (hdot : '.' ∉ name.toList)
      (hspace : engine.registry.namespace? name = some space) :
      Candidates engine reference target
        (.operation space member :: (spellings reference).map (.data space))
  | unregistered {name member : String} (hreference : reference = name ++ "." ++ member)
      (hdot : '.' ∉ name.toList) (hspace : engine.registry.namespace? name = none) :
      Candidates engine reference target ((spellings reference).map (.data target))

theorem exists_candidates (engine : Engine) (reference : String) (target : Namespace) :
    ∃ candidates, engine.Candidates reference target candidates := by
  by_cases hdot : '.' ∈ reference.toList
  · obtain ⟨name, member, htext, hname⟩ := List.eq_append_cons_of_mem hdot
    have hreference : reference = String.ofList name ++ "." ++ String.ofList member := by
      rw [← String.toList_inj, htext]
      simp
    have hfirst : '.' ∉ (String.ofList name).toList := by rwa [String.toList_ofList]
    cases hspace : engine.registry.namespace? (String.ofList name) with
    | some space => exact ⟨_, .qualified hreference hfirst hspace⟩
    | none => exact ⟨_, .unregistered hreference hfirst hspace⟩
  · exact ⟨_, .member hdot⟩

end Engine

namespace Candidate

/-- There is no such operation, or no locale of the chain has a leaf at the key. -/
def Absent (engine : Engine) : Candidate → Prop
  | .operation space name => space.get? name = none
  | .data _ key => engine.leaf? key = none

def looks (engine : Engine) : Candidate → List Event
  | .operation _ _ => []
  | .data _ key => engine.probes key

end Candidate

namespace Engine

variable {engine : Engine}

variable [Source σ]

theorem fetch?_of_none {key : String} (h : engine.leaf? key = none) (session : Session σ) :
    engine.fetcher.fetch? key session = (none, session.noting (engine.probes key)) := by
  have hleaf : engine.fetcher.leaf? key = none := h
  exact Fetcher.fetch?_of_none hleaf session

theorem fetch?_of_some {key : String} {entry : Entry} (h : engine.leaf? key = some entry)
    (session : Session σ) :
    engine.fetcher.fetch? key session =
      (some (Fetcher.select entry (session.noting (engine.probes key))).1,
        (Fetcher.select entry (session.noting (engine.probes key))).2) := by
  have hleaf : engine.fetcher.leaf? key = some entry := h
  exact Fetcher.fetch?_of_some hleaf session

def choose (engine : Engine) : List Candidate → StateM (Session σ) Route
  | [] => pure .nowhere
  | .operation space name :: rest =>
    match space.get? name with
    | some operation => pure (.call space name operation)
    | none => choose engine rest
  | .data space key :: rest => do
    match ← engine.fetcher.fetch? key with
    | some template => pure (.data space template)
    | none => choose engine rest

theorem choose_spellings (engine : Engine) (space : Namespace) (key : String)
    (rest : List Candidate) :
    engine.choose ((spellings key).map (.data space) ++ rest) = (do
      match ← engine.data? key with
      | some template => pure (.data space template)
      | none => engine.choose rest : StateM (Session σ) Route) := by
  funext session
  obtain ⟨⟨found, middle⟩, hfound⟩ : ∃ outcome, engine.fetcher.fetch? key session = outcome :=
    ⟨_, rfl⟩
  simp only [spellings_eq, List.map_cons, List.cons_append, choose, data?, bind_assoc,
    bind_of_eq hfound]
  cases found with
  | some template => rfl
  | none =>
    cases otherKey? key with
    | none => rfl
    | some other => rfl

theorem route_eq {reference : String} {target : Namespace} {candidates : List Candidate}
    (h : engine.Candidates reference target candidates) :
    (engine.route reference target : StateM (Session σ) Route) = engine.choose candidates := by
  have hdata (space : Namespace) := choose_spellings (σ := σ) engine space reference []
  simp only [List.append_nil, choose] at hdata
  cases h with
  | member hdot =>
    rw [route, qualified?_of_not_mem hdot, List.cons_append, choose, choose_spellings]
    rfl
  | @qualified name member space hreference hdot hspace =>
    have hparts : qualified? reference = some (name, member) := by
      rw [hreference, qualified?_of_dot hdot]
    simp only [route, hparts, routeQualified, hspace, Option.bind_some, Option.getD_some, choose,
      hdata]
    cases space.get? member with
    | none => rfl
    | some operation => rfl
  | @unregistered name member hreference hdot hspace =>
    have hparts : qualified? reference = some (name, member) := by
      rw [hreference, qualified?_of_dot hdot]
    simp only [route, hparts, routeQualified, hspace, hdata]
    rfl

theorem choose_of_absent {before : List Candidate}
    (habsent : ∀ c ∈ before, c.Absent engine) (rest : List Candidate)
    (session : Session σ) :
    engine.choose (before ++ rest) session =
      engine.choose rest (session.noting (before.flatMap (Candidate.looks engine))) := by
  induction before generalizing session with
  | nil => rfl
  | cons c before ih =>
    have hrest := ih fun d hd => habsent d (List.mem_cons_of_mem c hd)
    have hc := habsent c List.mem_cons_self
    rw [List.cons_append, List.flatMap_cons, Session.noting_append]
    cases c with
    | operation space name =>
      have hnone : space.get? name = none := hc
      rw [choose, hnone]
      exact hrest session
    | data space key =>
      have hnone : engine.leaf? key = none := hc
      rw [choose, bind_of_eq (fetch?_of_none hnone session)]
      exact hrest _

/-- The first of the candidates that exists, behind these that do not. -/
structure First (engine : Engine) (candidates before : List Candidate) (chosen : Candidate) :
    Prop where
  listed : ∃ behind, candidates = before ++ chosen :: behind
  absent : ∀ c ∈ before, c.Absent engine

theorem absent_or_first (engine : Engine) (candidates : List Candidate) :
    (∀ c ∈ candidates, c.Absent engine) ∨
      ∃ before chosen, engine.First candidates before chosen ∧ ¬ chosen.Absent engine := by
  induction candidates with
  | nil => exact .inl nofun
  | cons c rest ih =>
    by_cases hc : c.Absent engine
    · rcases ih with habsent | ⟨before, chosen, ⟨⟨behind, hrest⟩, hbefore⟩, hchosen⟩
      · exact .inl (List.forall_mem_cons.mpr ⟨hc, habsent⟩)
      · refine .inr ⟨c :: before, chosen, ⟨⟨behind, ?_⟩, ?_⟩, hchosen⟩
        · rw [hrest, List.cons_append]
        · exact List.forall_mem_cons.mpr ⟨hc, hbefore⟩
    · exact .inr ⟨[], c, ⟨⟨rest, rfl⟩, nofun⟩, hc⟩

/-- What a directive comes to by the reply of its operation. An overrun stays what it is, and every
other failure is that of the directive. -/
def verdict (token : String) :
    Except OperationError String → Session σ → Except Fault String × Session σ
  | .ok text, session => (.ok text, session)
  | .error (.engine (.tooDeep inner limit)), session => (.error (.tooDeep inner limit), session)
  | .error error, session => (.error (.unresolved token), session.noting [.failed token error])

omit [Source σ] in
theorem fold_eq (token : String) (error : OperationError) (session : Session σ) :
    (fold token error : Run σ String) session = verdict token (.error error) session := by
  unfold fold
  split
  · rfl
  · rename_i hother
    rw [verdict]
    · rfl
    · exact hother

omit [Source σ] in
theorem report_eq (token : String) (reply : Except OperationError String) (session : Session σ) :
    (report token reply : Run σ String) session = verdict token reply session := by
  cases reply with
  | ok text => rfl
  | error error => exact fold_eq token error session

def looked (engine : Engine) (context : Context σ) (directive : Directive) (session : Session σ)
    (candidates : List Candidate) : Session σ :=
  session.noting (.dispatched directive.token context.depth ::
    candidates.flatMap (Candidate.looks engine))

/-- What a directive comes to by the first of its candidates that exists. Data is expanded after
one value of it was selected. An operation is called once, after the arguments have been expanded in
turn against the target of the directive, and not at all if one of them fails. -/
inductive Dispatches (engine : Engine) (context : Context σ) (directive : Directive)
    (target : Namespace) (candidates : List Candidate) (session : Session σ) :
    Except Fault String → Session σ → Prop where
  | unmatched (habsent : ∀ c ∈ candidates, c.Absent engine) :
      Dispatches engine context directive target candidates session
        (.error (.unresolved directive.token))
        ((engine.looked context directive session candidates).noting
          [.unmatched directive.token target.name])
  | data {before : List Candidate} {space : Namespace} {key template : String} {entry : Entry}
      {selected after : Session σ} {result : Except Fault String}
      (hfirst : engine.First candidates before (.data space key))
      (hleaf : engine.leaf? key = some entry)
      (hselect : Fetcher.select entry
        (engine.looked context directive session (before ++ [.data space key])) =
          (template, selected))
      (hexpand : context.expand space template selected = (result, after)) :
      Dispatches engine context directive target candidates session result after
  | refused {before : List Candidate} {space : Namespace} {name : String} {operation : Operation}
      {fault : Fault} {expanded after : Session σ} {result : Except Fault String}
      (hfirst : engine.First candidates before (.operation space name))
      (hoperation : space.get? name = some operation)
      (harguments : InTurn (context.expand target) directive.arguments
        (engine.looked context directive session before) (.error fault, expanded))
      (hverdict : verdict directive.token (.error (.engine fault)) expanded = (result, after)) :
      Dispatches engine context directive target candidates session result after
  | called {before : List Candidate} {space : Namespace} {name : String} {operation : Operation}
      {arguments : List String} {reply : Except OperationError String}
      {expanded replied after : Session σ} {result : Except Fault String}
      (hfirst : engine.First candidates before (.operation space name))
      (hoperation : space.get? name = some operation)
      (harguments : InTurn (context.expand target) directive.arguments
        (engine.looked context directive session before) (.ok arguments, expanded))
      (hreply : engine.perform context space
        (operation ⟨arguments, space.scope, context.depth + 1⟩).run
        (expanded.noting [.called space.name name arguments (context.depth + 1)]) =
          (reply, replied))
      (hverdict : verdict directive.token reply replied = (result, after)) :
      Dispatches engine context directive target candidates session result after

variable {context : Context σ} {directive : Directive} {target : Namespace}
  {candidates : List Candidate} {session after : Session σ} {result : Except Fault String}

theorem dispatch_choose (hcandidates : engine.Candidates directive.reference target candidates)
    (context : Context σ) (session : Session σ) :
    engine.dispatch context directive target session =
      engine.follow context directive target
        (engine.choose candidates (engine.looked context directive session [])).1
        (engine.choose candidates (engine.looked context directive session [])).2 := by
  rw [dispatch_eq, route_eq hcandidates]
  rfl

omit [Source σ] in
theorem looked_append (tried more : List Candidate) :
    engine.looked context directive session (tried ++ more) =
      (engine.looked context directive session tried).noting
        (more.flatMap (Candidate.looks engine)) := by
  rw [looked, List.flatMap_append, ← List.cons_append, Session.noting_append]
  rfl

theorem dispatch_of_unmatched
    (hcandidates : engine.Candidates directive.reference target candidates)
    (habsent : ∀ c ∈ candidates, c.Absent engine) :
    engine.dispatch context directive target session =
      (.error (.unresolved directive.token),
        (engine.looked context directive session candidates).noting
          [.unmatched directive.token target.name]) := by
  have hnowhere := choose_of_absent habsent [] (engine.looked context directive session [])
  rw [List.append_nil, ← looked_append, List.nil_append] at hnowhere
  rw [dispatch_choose hcandidates, hnowhere]
  rfl

theorem dispatch_of_data (hcandidates : engine.Candidates directive.reference target candidates)
    {before : List Candidate} {space : Namespace} {key : String} {entry : Entry}
    (hfirst : engine.First candidates before (.data space key))
    (hleaf : engine.leaf? key = some entry) :
    engine.dispatch context directive target session =
      context.expand space
        (Fetcher.select entry
          (engine.looked context directive session (before ++ [.data space key]))).1
        (Fetcher.select entry
          (engine.looked context directive session (before ++ [.data space key]))).2 := by
  obtain ⟨⟨behind, rfl⟩, habsent⟩ := hfirst
  have hlooked : engine.looked context directive session (before ++ [.data space key]) =
      (engine.looked context directive session before).noting (engine.probes key) := by
    rw [looked_append, List.flatMap_singleton]
    rfl
  have hchoose := choose_of_absent habsent (.data space key :: behind)
    (engine.looked context directive session [])
  rw [← looked_append, List.nil_append, choose, bind_of_eq (fetch?_of_some hleaf _), ← hlooked]
    at hchoose
  rw [dispatch_choose hcandidates, hchoose]
  rfl

theorem dispatch_of_operation
    (hcandidates : engine.Candidates directive.reference target candidates)
    {before : List Candidate} {space : Namespace} {name : String} {operation : Operation}
    (hfirst : engine.First candidates before (.operation space name))
    (hoperation : space.get? name = some operation) :
    engine.dispatch context directive target session =
      engine.invoke context directive target space name operation
        (engine.looked context directive session before) := by
  obtain ⟨⟨behind, rfl⟩, habsent⟩ := hfirst
  have hchoose := choose_of_absent habsent (.operation space name :: behind)
    (engine.looked context directive session [])
  rw [← looked_append, List.nil_append, choose, hoperation] at hchoose
  rw [dispatch_choose hcandidates, hchoose]
  rfl

theorem applyTo_of_reply {token : String} {space : Namespace} {name : String}
    {operation : Operation} {arguments : List String} {reply : Except OperationError String}
    {expanded replied : Session σ}
    (hreply : engine.perform context space
      (operation ⟨arguments, space.scope, context.depth + 1⟩).run
      (expanded.noting [.called space.name name arguments (context.depth + 1)]) =
        (reply, replied)) :
    engine.applyTo context token space name operation arguments expanded =
      verdict token reply replied := by
  simp only [applyTo, Run.lift_bind, Run.note_eq, hreply, report_eq]

theorem invoke_of_error {caller space : Namespace} {name : String} {operation : Operation}
    {fault : Fault} {expanded : Session σ}
    (harguments : InTurn (context.expand caller) directive.arguments session
      (.error fault, expanded)) :
    engine.invoke context directive caller space name operation session =
      verdict directive.token (.error (.engine fault)) expanded := by
  rw [invoke_eq, Run.lift_bind, mapM_eq_of_inTurn harguments]
  exact fold_eq _ _ _

theorem invoke_of_ok {caller space : Namespace} {name : String} {operation : Operation}
    {arguments : List String} {expanded : Session σ}
    (harguments : InTurn (context.expand caller) directive.arguments session
      (.ok arguments, expanded)) :
    engine.invoke context directive caller space name operation session =
      engine.applyTo context directive.token space name operation arguments expanded := by
  rw [invoke_eq, Run.lift_bind, mapM_eq_of_inTurn harguments]

theorem dispatch_of_dispatches
    (hcandidates : engine.Candidates directive.reference target candidates)
    (h : engine.Dispatches context directive target candidates session result after) :
    engine.dispatch context directive target session = (result, after) := by
  cases h with
  | unmatched habsent => exact dispatch_of_unmatched hcandidates habsent
  | data hfirst hleaf hselect hexpand =>
    rw [dispatch_of_data hcandidates hfirst hleaf, hselect, hexpand]
  | refused hfirst hoperation harguments hverdict =>
    rw [dispatch_of_operation hcandidates hfirst hoperation, invoke_of_error harguments, hverdict]
  | called hfirst hoperation harguments hreply hverdict =>
    rw [dispatch_of_operation hcandidates hfirst hoperation, invoke_of_ok harguments,
      applyTo_of_reply hreply, hverdict]

theorem exists_dispatches (engine : Engine) (context : Context σ) (directive : Directive)
    (target : Namespace) (candidates : List Candidate) (session : Session σ) :
    ∃ result after,
      engine.Dispatches context directive target candidates session result after := by
  rcases absent_or_first engine candidates with
    habsent | ⟨before, chosen, hfirst, hchosen⟩
  · exact ⟨_, _, .unmatched habsent⟩
  · cases chosen with
    | data space key =>
      cases hleaf : engine.leaf? key with
      | none => exact absurd hleaf hchosen
      | some entry => exact ⟨_, _, .data hfirst hleaf rfl rfl⟩
    | operation space name =>
      cases hoperation : space.get? name with
      | none => exact absurd hoperation hchosen
      | some operation =>
        obtain ⟨expanded, last, harguments⟩ := exists_inTurn (context.expand target)
          directive.arguments (engine.looked context directive session before)
        cases expanded with
        | error fault => exact ⟨_, _, .refused hfirst hoperation harguments rfl⟩
        | ok arguments => exact ⟨_, _, .called hfirst hoperation harguments rfl rfl⟩

theorem dispatch_eq_iff (hcandidates : engine.Candidates directive.reference target candidates) :
    engine.dispatch context directive target session = (result, after) ↔
      engine.Dispatches context directive target candidates session result after := by
  constructor
  · intro h
    -- some rule applies, and what it says the dispatch computes
    obtain ⟨other, last, hdispatches⟩ :=
      exists_dispatches engine context directive target candidates session
    have hother := dispatch_of_dispatches hcandidates hdispatches
    rw [h] at hother
    cases hother
    exact hdispatches
  · exact dispatch_of_dispatches hcandidates

def contextAt (engine : Engine) (restart : Namespace → String → Run σ String) (depth : Nat) : Context σ :=
  ⟨engine.expandWithin restart (engine.config.maxDepth - (depth + 1)), restart, depth⟩

theorem evaluateWithin_eq {restart : Namespace → String → Run σ String} {depth : Nat} {token : List Char}
    (hdepth : depth < engine.config.maxDepth)
    (hparse : Directive.parse? (String.ofList token) = some directive) :
    engine.evaluateWithin restart (engine.config.maxDepth - depth) target token =
      engine.dispatch (engine.contextAt restart depth) directive target := by
  obtain ⟨left, hleft⟩ : ∃ left, engine.config.maxDepth = depth + 1 + left :=
    ⟨engine.config.maxDepth - (depth + 1), by omega⟩
  have hmore : engine.config.maxDepth - depth = left + 1 := by omega
  have hless : engine.config.maxDepth - (depth + 1) = left := by omega
  have hback : engine.config.maxDepth - (left + 1) = depth := by omega
  rw [hmore, evaluateWithin, evaluate, hparse, contextAt, hless, hback]

/-- What a directive below the depth limit comes to, and the session after it, is what the first of
its candidates that exists gives, and nothing else happens; where none exists, the directive itself
is unresolved. A template comes to its text and to what its directives come to in turn. -/
theorem dispatched_by_precedence (engine : Engine) (restart : Namespace → String → Run σ String)
    {depth : Nat} (hdepth : depth < engine.config.maxDepth) {token : List Char}
    {directive : Directive} (hparse : Directive.parse? (String.ofList token) = some directive)
    (target : Namespace) (session : Session σ) :
    directive.token = String.ofList token ∧
      (∃ candidates, engine.Candidates directive.reference target candidates) ∧
      (∀ candidates, engine.Candidates directive.reference target candidates →
        ∀ (result : Except Fault String) (after : Session σ),
          engine.evaluateWithin restart (engine.config.maxDepth - depth) target token session =
              (result, after) ↔
            engine.Dispatches (engine.contextAt restart depth) directive target candidates session
              result after) ∧
      ∀ (left : Nat) (space : Namespace) (template : String),
        engine.expandWithin restart left space template =
          splice (engine.evaluateWithin restart left space)
            (Directive.segments template.toList) := by
  refine ⟨Directive.token_of_parse? hparse, exists_candidates engine directive.reference target,
    fun candidates hcandidates result after => ?_, expandWithin_eq engine restart⟩
  rw [evaluateWithin_eq hdepth hparse]
  exact dispatch_eq_iff hcandidates

/-- An engine with data in the place of an operation of the root, and with data of a namespace that
mentions other data of the same namespace. -/
def shadowEngine : Engine :=
  ⟨Config.default, Registry.default.register Builtin.idNumber,
    ((Store.empty.set .en "id_number.numerify" (.list ["one", "two"])).set .en "id_number.full_form"
      (.list ["#\x7bprefix\x7d", "#\x7bprefix\x7d-#\x7bnumerify\x7d"])).set .en "id_number.prefix"
        (.scalar "ID")⟩

/-- Data is found under the usual form of a reference with a dot, and it is expanded in the namespace
that the reference names. -/
theorem dispatched_by_precedence_shadowEngine :
    let token := "#\x7bIdNumber.fullForm\x7d"
    let directive : Directive := ⟨token, "IdNumber.fullForm", []⟩
    let restart := shadowEngine.restartWithin maxRestarts
    let session := Session.start (RandomSource.cycle [1] 0)
    let outcome := shadowEngine.evaluateWithin restart (shadowEngine.config.maxDepth - 2)
      Builtin.root token.toList session
    let candidates : List Candidate := [.operation Builtin.idNumber "fullForm",
      .data Builtin.idNumber "IdNumber.fullForm", .data Builtin.idNumber "id_number.full_form"]
    2 < shadowEngine.config.maxDepth ∧
      Directive.parse? (String.ofList token.toList) = some directive ∧
      outcome.1.toOption = some "ID-two" ∧ outcome.2.source.draws? = some 2 ∧
      directive.token = String.ofList token.toList ∧
      shadowEngine.Candidates directive.reference Builtin.root candidates ∧
      shadowEngine.Dispatches (shadowEngine.contextAt restart 2) directive Builtin.root candidates
        session outcome.1 outcome.2 := by
  intro token directive restart session outcome candidates
  have hdepth : 2 < shadowEngine.config.maxDepth := by decide
  have hparse : Directive.parse? (String.ofList token.toList) = some directive := by
    decide +kernel
  obtain ⟨htoken, -, hdispatches, -⟩ := dispatched_by_precedence shadowEngine restart hdepth hparse
    Builtin.root session
  have hform : Name.snake "IdNumber.fullForm" = "id_number.full_form" := by decide +kernel
  have hspellings :
      spellings directive.reference = ["IdNumber.fullForm", "id_number.full_form"] := by
    rw [spellings, hform, if_neg (by decide)]
  have hspace : shadowEngine.registry.namespace? "IdNumber" = some Builtin.idNumber :=
    Dictionary.find?_insert_self _ Builtin.idNumber _
  have hreference : directive.reference = "IdNumber" ++ "." ++ "fullForm" := by decide
  have hcandidates : shadowEngine.Candidates directive.reference Builtin.root candidates := by
    have hqualified : shadowEngine.Candidates directive.reference Builtin.root _ :=
      .qualified hreference (by decide) hspace
    rwa [hspellings] at hqualified
  have houtcome : (outcome.1.toOption, outcome.2.source.draws?) = (some "ID-two", some 2) := by
    decide +kernel
  obtain ⟨htext, hdraws⟩ := Prod.mk.inj houtcome
  exact ⟨hdepth, hparse, htext, hdraws, htoken, hcandidates,
    (hdispatches candidates hcandidates outcome.1 outcome.2).mp (Prod.ext rfl rfl)⟩

end Engine

end Pastiche
