import Pastiche.Proofs.Engine.Precedence
import Pastiche.Proofs.Operation.Builtin

/-!
Directives for the operations of the root. Their arguments are counted and read after they have been
expanded; what is refused is a directive that is not resolved, and nothing is drawn for it.
-/

namespace Pastiche

variable {σ α β : Type}

theorem InTurn.length_eq {run : α → Run σ β} {list : List α} {session : Session σ}
    {outcome : Except Fault (List β) × Session σ} (h : InTurn run list session outcome)
    {bs : List β} (hok : outcome.1 = .ok bs) : bs.length = list.length := by
  induction h generalizing bs with
  | nil =>
    cases hok
    rfl
  | stop hfirst => cases hok
  | @cons a rest b session middle after result hfirst hrest ih =>
    cases result with
    | error fault => cases hok
    | ok more =>
      cases hok
      rw [List.length_cons, List.length_cons, ih rfl]

theorem eq_ok_of_mapError {ε δ : Type} {result : Except ε α} {f : ε → δ} {a : α}
    (h : result.mapError f = .ok a) : result = .ok a := by
  cases result with
  | error error => cases h
  | ok b =>
    cases h
    rfl

namespace Engine

theorem verdict_eq_ok {token text : String} {reply : Except OperationError String}
    {session after : Session σ} (h : verdict token reply session = (.ok text, after)) :
    reply = .ok text ∧ session = after := by
  unfold verdict at h
  split at h <;> cases h
  exact ⟨rfl, rfl⟩

theorem verdict_of_plain {error : OperationError} (h : ∀ fault, error ≠ .engine fault)
    (token : String) (session : Session σ) :
    verdict token (.error error) session =
      (.error (.unresolved token), session.noting [.failed token error]) := by
  cases error with
  | engine fault => exact absurd rfl (h fault)
  | _ => rfl

theorem verdict_of_fault (token : String) (fault : Fault) (session : Session σ) :
    ∃ result after, verdict token (.error (.engine fault)) session = (.error result, after) ∧
      after.source = session.source ∧
      (result = .unresolved token ∨ result = fault ∧ ∃ inner limit, fault = .tooDeep inner limit) := by
  cases fault with
  | tooDeep inner limit => exact ⟨_, _, rfl, rfl, .inr ⟨rfl, inner, limit, rfl⟩⟩
  | _ => exact ⟨_, _, rfl, rfl, .inl rfl⟩

variable [Source σ] {engine : Engine} {kind : Builtin.Kind}

theorem perform_generate (context : Context σ) (own : Namespace) (generator : Generator)
    (session : Session σ) :
    engine.perform context own (Reply.generate generator).run session =
      ((engine.generate generator session).1.mapError .engine,
        (engine.generate generator session).2) := rfl

section Applied

variable {context : Context σ} {token name : String} {space : Namespace} {arguments : List String}
  {expanded : Session σ}

theorem applyTo_of_accepts {generator : Generator} (h : kind.Accepts arguments generator) :
    engine.applyTo context token space name kind.operation arguments expanded =
      verdict token
        ((engine.generate generator (expanded.noting
          [.called space.name name arguments (context.depth + 1)])).1.mapError .engine)
        (engine.generate generator (expanded.noting
          [.called space.name name arguments (context.depth + 1)])).2 := by
  refine applyTo_of_reply ?_
  rw [Builtin.Kind.operation_eq, Builtin.Kind.reading_eq_ok_iff.mpr h, Reply.require_ok]
  exact perform_generate _ _ _ _

theorem applyTo_of_refused (h : ∀ generator, ¬ kind.Accepts arguments generator) :
    ∃ after, engine.applyTo context token space name kind.operation arguments expanded =
      (.error (.unresolved token), after) ∧ after.source = expanded.source := by
  cases hreading : kind.reading arguments with
  | ok generator => exact absurd (Builtin.Kind.reading_eq_ok_iff.mp hreading) (h generator)
  | error error =>
    -- the engine has not been asked for anything yet, so none of its faults is handed on
    have hplain : ∀ fault, error ≠ .engine fault := by
      rintro fault rfl
      exact kind.reading_plain arguments fault hreading
    have hreply : engine.perform context space
        (kind.operation ⟨arguments, space.scope, context.depth + 1⟩).run
        (expanded.noting [.called space.name name arguments (context.depth + 1)]) =
          (.error error, expanded.noting
            [.called space.name name arguments (context.depth + 1)]) := by
      rw [Builtin.Kind.operation_eq, hreading]
      rfl
    exact ⟨_, (applyTo_of_reply hreply).trans (verdict_of_plain hplain _ _), rfl⟩

end Applied

/-- The operation succeeds exactly with what is generated for arguments that it accepts. -/
theorem invoke_eq_ok_iff {context : Context σ} {directive : Directive} {caller space : Namespace}
    {name text : String} {session after : Session σ} :
    engine.invoke context directive caller space name kind.operation session = (.ok text, after) ↔
      ∃ arguments expanded generator,
        InTurn (context.expand caller) directive.arguments session (.ok arguments, expanded) ∧
          kind.Accepts arguments generator ∧
          engine.generate generator
            (expanded.noting [.called space.name name arguments (context.depth + 1)]) =
              (.ok text, after) := by
  constructor
  · intro h
    -- an argument may fail, or the operation refuse them all: neither leads to a text
    obtain ⟨handed, expanded, harguments⟩ :=
      exists_inTurn (context.expand caller) directive.arguments session
    cases handed with
    | error fault =>
      obtain ⟨result, last, hverdict, -⟩ := verdict_of_fault directive.token fault expanded
      rw [invoke_of_error harguments, hverdict] at h
      cases h
    | ok arguments =>
      rw [invoke_of_ok harguments] at h
      by_cases haccepts : ∃ generator, kind.Accepts arguments generator
      · obtain ⟨generator, haccepts⟩ := haccepts
        rw [applyTo_of_accepts haccepts] at h
        obtain ⟨hreply, hafter⟩ := verdict_eq_ok h
        exact ⟨arguments, expanded, generator, harguments, haccepts,
          Prod.ext (eq_ok_of_mapError hreply) hafter⟩
      · obtain ⟨last, hlast, -⟩ : ∃ last, engine.applyTo context directive.token space name
            kind.operation arguments expanded = (.error (.unresolved directive.token), last) ∧
              last.source = expanded.source := applyTo_of_refused (not_exists.mp haccepts)
        rw [hlast] at h
        cases h
  · rintro ⟨arguments, expanded, generator, harguments, haccepts, hgenerate⟩
    rw [invoke_of_ok harguments, applyTo_of_accepts haccepts, hgenerate]
    rfl

/-- In the target nothing comes before the operations of the root: it is the root, or it has no
operation and no data under the reference. -/
def Unshadowed (engine : Engine) (target : Namespace) (reference : String) : Prop :=
  target = engine.registry.root ∨ target.get? reference = none ∧
    ∀ key ∈ spellings (target.dataKey reference), engine.leaf? key = none

omit [Source σ] in
theorem Unshadowed.first {target : Namespace} {reference : String}
    (h : engine.Unshadowed target reference) (hbare : '.' ∉ reference.toList) :
    ∃ candidates before, engine.Candidates reference target candidates ∧
      engine.First candidates before (.operation engine.registry.root reference) := by
  rcases h with rfl | ⟨hoperation, hdata⟩
  · exact ⟨_, [], .member hbare, ⟨_, rfl⟩, nofun⟩
  · refine ⟨_, _, .member hbare, ⟨[], rfl⟩, List.forall_mem_cons.mpr ⟨hoperation, ?_⟩⟩
    exact List.forall_mem_map.mpr hdata

/-- A directive for an operation of the root succeeds exactly if its arguments expand to some that
the operation accepts, and then with what is generated for them. If it does not accept them, the
directive is unresolved, and no draw is made but those for the arguments. -/
theorem arguments_counted (engine : Engine) (restart : Namespace → String → Run σ String)
    {depth : Nat} (hdepth : depth < engine.config.maxDepth) {token : List Char}
    {directive : Directive} (hparse : Directive.parse? (String.ofList token) = some directive)
    (hbare : '.' ∉ directive.reference.toList)
    (hkind : engine.registry.root.get? directive.reference = some kind.operation)
    {target : Namespace} (htarget : engine.Unshadowed target directive.reference)
    (session : Session σ) :
    let expand := (engine.contextAt restart depth).expand target
    let outcome :=
      engine.evaluateWithin restart (engine.config.maxDepth - depth) target token session
    ∃ called : Session σ, called.source = session.source ∧
      (∀ text after, outcome = (.ok text, after) ↔
        ∃ arguments expanded generator,
          InTurn expand directive.arguments called (.ok arguments, expanded) ∧
            kind.Accepts arguments generator ∧
            engine.generate generator (expanded.noting
              [.called engine.registry.root.name directive.reference arguments (depth + 1)]) =
                (.ok text, after)) ∧
      (∀ text after, outcome = (.ok text, after) → kind.Allows directive.arguments.length) ∧
      (∀ arguments expanded,
        InTurn expand directive.arguments called (.ok arguments, expanded) →
          (∀ generator, ¬ kind.Accepts arguments generator) →
            ∃ after, outcome = (.error (.unresolved directive.token), after) ∧
              after.source = expanded.source) ∧
      ∀ fault expanded, InTurn expand directive.arguments called (.error fault, expanded) →
        ∃ result after, outcome = (.error result, after) ∧ after.source = expanded.source ∧
          (result = .unresolved directive.token ∨
            result = fault ∧ ∃ inner limit, fault = .tooDeep inner limit) := by
  intro expand outcome
  obtain ⟨candidates, before, hcandidates, hfirst⟩ := htarget.first hbare
  have houtcome : outcome =
      engine.invoke (engine.contextAt restart depth) directive target engine.registry.root
        directive.reference kind.operation
        (engine.looked (engine.contextAt restart depth) directive session before) := by
    rw [← dispatch_of_operation hcandidates hfirst hkind, ← evaluateWithin_eq hdepth hparse]
  rw [houtcome]
  refine ⟨engine.looked _ directive session before, rfl, fun text after => invoke_eq_ok_iff,
    fun text after h => ?_, fun arguments expanded harguments hrefused => ?_,
    fun fault expanded harguments => ?_⟩
  · obtain ⟨arguments, expanded, generator, harguments, haccepts, -⟩ := invoke_eq_ok_iff.mp h
    rw [← harguments.length_eq rfl]
    exact haccepts.allows
  · rw [invoke_of_ok harguments]
    exact applyTo_of_refused hrefused
  · rw [invoke_of_error harguments]
    exact verdict_of_fault _ _ _

/-- An engine with data that no operation is named like. -/
def plainEngine : Engine :=
  ⟨Config.default, Registry.default.register Builtin.idNumber,
    Store.empty.set .en "greeting" (.scalar "hello")⟩

theorem unshadowed_letterify : plainEngine.Unshadowed Builtin.idNumber "letterify" := by
  have hoperation : (Builtin.idNumber.get? "letterify").isNone = true := by decide +kernel
  exact .inr ⟨Option.isNone_iff_eq_none.mp hoperation, by decide +kernel⟩

/-- The flag may be in any case and between blanks; two numbers are one too many. -/
theorem arguments_counted_plainEngine :
    let session := Session.start (RandomSource.cycle [1] 0)
    let letters : Directive :=
      ⟨"#\x7bletterify '??', ' False '\x7d", "letterify", ["??", " False "]⟩
    let digits : Directive := ⟨"#\x7bnumerify '#', '#'\x7d", "numerify", ["#", "#"]⟩
    let restart := plainEngine.restartWithin maxRestarts
    let outcome (directive : Directive) (target : Namespace) :=
      plainEngine.evaluateWithin restart (plainEngine.config.maxDepth - 1) target
        directive.token.toList session
    plainEngine.Unshadowed Builtin.idNumber "letterify" ∧
      (outcome letters Builtin.idNumber).1 = .ok "bb" ∧
      (∃ arguments generator, Builtin.Kind.letterify.Accepts arguments generator ∧
        arguments.length = 2) ∧
      (∀ text after, outcome digits Builtin.root ≠ (.ok text, after)) ∧
      (outcome digits Builtin.root).2.source.draws? = some 0 := by
  intro session letters digits restart outcome
  have hdepth : 1 < plainEngine.config.maxDepth := by decide
  have hletters : (outcome letters Builtin.idNumber).1 = .ok "bb" :=
    eq_ok_of_toOption (by decide +kernel)
  have hdraws : (outcome digits Builtin.root).2.source.draws? = some 0 := by decide +kernel
  have hparseLetters : Directive.parse? (String.ofList letters.token.toList) = some letters := by
    decide +kernel
  have hparseDigits : Directive.parse? (String.ofList digits.token.toList) = some digits := by
    decide +kernel
  obtain ⟨called, -, hsuccess, -, -, -⟩ := arguments_counted plainEngine restart hdepth
    hparseLetters (by decide +kernel) (Builtin.Kind.get?_root .letterify) unshadowed_letterify
    session
  obtain ⟨-, -, -, hcount, -, -⟩ := arguments_counted plainEngine restart hdepth hparseDigits
    (by decide +kernel) (Builtin.Kind.get?_root .numerify) (.inl rfl) session
  refine ⟨unshadowed_letterify, hletters, ?_, fun text after h => ?_, hdraws⟩
  · obtain ⟨arguments, expanded, generator, hexpanded, haccepts, -⟩ :=
      (hsuccess "bb" (outcome letters Builtin.idNumber).2).mp (Prod.ext hletters rfl)
    exact ⟨arguments, generator, haccepts, hexpanded.length_eq rfl⟩
  · have hone : 2 = 1 := hcount text after h
    omega

/-- With more than two arguments `bothify` looks at the first one only, where `letterify` refuses
them. -/
theorem extra_arguments_ignored :
    let extra := "#\x7bbothify '##', 'maybe', 'x'\x7d"
    let refused := "#\x7bletterify '##', 'true', 'x'\x7d"
    let session := Session.start (RandomSource.fixed 0)
    Directive.parse? extra = some ⟨extra, "bothify", ["##", "maybe", "x"]⟩ ∧
      plainEngine.registry.root.get? "bothify" = some Builtin.bothify ∧
      (plainEngine.expand extra session).1 = .ok "00" ∧
      (plainEngine.expand refused session).1.toOption = none := by
  intro extra refused session
  exact ⟨by decide +kernel, Builtin.Kind.get?_root .bothify, eq_ok_of_toOption (by decide +kernel),
    by decide +kernel⟩

end Engine

end Pastiche
