import Mathlib.Data.Seq.Basic
import Pastiche.Proofs.Engine.Mention

/-!
Data that leads from key to key. Each key of a trail stands for a mention of the next one, the last
for a text, and a trail need not end. It is followed to its text where the depth limit is no less
than its length; otherwise the key at the limit is one too deep.
-/

namespace Pastiche

namespace Engine

open Directive (mention IsMember)

variable {σ : Type} [Source σ] {engine : Engine} {key template text : String}
  {keys : Stream'.Seq String}

/-- The key is a member without an operation of the root, and this template is its data. -/
structure Leads (engine : Engine) (key template : String) : Prop where
  member : IsMember key
  operation : engine.registry.root.get? key = none
  leaf : engine.leaf? key = some (.scalar template)

namespace Leads

theorem first_data (h : engine.Leads key template) (hregistry : engine.registry.Built) :
    ∃ candidates, engine.Candidates key engine.registry.root candidates ∧
      engine.First candidates [.operation engine.registry.root key]
        (.data engine.registry.root key) := by
  refine ⟨_, .member h.member.not_mem_dot, ⟨⟨(otherKey? key).toList.map
    (.data engine.registry.root) ++ [.operation engine.registry.root key], ?_⟩, ?_⟩⟩
  · rw [hregistry.dataKey_root, spellings_eq]
    rfl
  · intro candidate hcandidate
    obtain rfl := List.mem_singleton.mp hcandidate
    exact h.operation

theorem expandWithin_eq (h : engine.Leads key template) (hregistry : engine.registry.Built)
    (restart : Namespace → String → Run σ String) {depth : Nat}
    (hdepth : depth < engine.config.maxDepth) (session : Session σ) :
    ∃ middle,
      engine.expandWithin restart (engine.config.maxDepth - depth) engine.registry.root
        (mention key) session =
      engine.expandWithin restart (engine.config.maxDepth - (depth + 1)) engine.registry.root
        template middle := by
  let directive : Directive := ⟨mention key, key, []⟩
  obtain ⟨candidates, hcandidates, hfirst⟩ := h.first_data hregistry
  have hlisted : engine.Candidates directive.reference engine.registry.root candidates :=
    hcandidates
  refine ⟨engine.looked (engine.contextAt restart depth) directive session
    ([.operation engine.registry.root key] ++ [.data engine.registry.root key]), ?_⟩
  rw [expandWithin_mention h.member.begins, evaluateWithin_eq hdepth h.member.begins.parse?_mention,
    dispatch_of_data hlisted hfirst h.leaf]
  rfl

end Leads

/-- Each key leads to a mention of the next one, and the last to a text without directives. -/
structure Trail (engine : Engine) (keys : Stream'.Seq String) (text : String) : Prop where
  leads : ∀ index key, keys.get? index = some key →
    engine.Leads key (((keys.get? (index + 1)).map mention).getD text)
  plain : keys.Terminates → Directive.find? text = none

namespace Trail

/-- What following a trail under a depth limit comes to. -/
def outcome (keys : Stream'.Seq String) (text : String) (limit : Nat) : Except Fault String :=
  match keys.get? limit with
  | none => .ok text
  | some key => .error (.tooDeep (mention key) limit)

theorem expandWithin_text (h : engine.Trail keys text) (hend : keys.Terminates)
    (restart : Namespace → String → Run σ String) (left : Nat) (target : Namespace) :
    engine.expandWithin restart left target text = pure text :=
  expandWithin_of_none (Option.map_eq_none_iff.mp (h.plain hend))

theorem expandWithin_eq (h : engine.Trail keys text) (hregistry : engine.registry.Built)
    (restart : Namespace → String → Run σ String) {index left : Nat}
    (hleft : index + left = engine.config.maxDepth) (hkey : keys.get? index = some key)
    (session : Session σ) :
    (engine.expandWithin restart left engine.registry.root (mention key) session).1 =
      outcome keys text engine.config.maxDepth := by
  induction left generalizing index key session with
  | zero =>
    obtain rfl : index = engine.config.maxDepth := hleft
    rw [expandWithin_mention (h.leads _ key hkey).member.begins, outcome, hkey, evaluateWithin,
      String.ofList_toList]
    rfl
  | succ left ih =>
    have hdepth : index < engine.config.maxDepth := by omega
    have hhere : engine.config.maxDepth - index = left + 1 := by omega
    have hthere : engine.config.maxDepth - (index + 1) = left := by omega
    obtain ⟨middle, hstep⟩ :=
      (h.leads index key hkey).expandWithin_eq hregistry restart hdepth session
    rw [hhere, hthere] at hstep
    rw [hstep]
    cases hnext : keys.get? (index + 1) with
    | some next => exact ih (by omega) hnext middle
    | none =>
      -- no key stands behind the last one, so none stands at the limit
      have hlimit : keys.get? engine.config.maxDepth = none := keys.le_stable hdepth hnext
      rw [Option.map_none, Option.getD_none, h.expandWithin_text ⟨index + 1, hnext⟩, outcome,
        hlimit]
      rfl

end Trail

/-- A trail is followed to its text if and only if it has no more keys than the depth limit;
otherwise, and so where it has no end, the key at the limit is too deep. -/
theorem expand_of_trail (hregistry : engine.registry.Built) (h : engine.Trail keys text)
    (hkey : keys.head = some key) (session : Session σ) :
    ((engine.expand (mention key) session).1 = .ok text ↔
        keys.length' ≤ engine.config.maxDepth) ∧
      (¬ keys.length' ≤ engine.config.maxDepth →
        ∃ last, keys.get? engine.config.maxDepth = some last ∧
          (engine.expand (mention key) session).1 =
            .error (.tooDeep (mention last) engine.config.maxDepth)) := by
  have houtcome : (engine.expand (mention key) session).1 =
      Trail.outcome keys text engine.config.maxDepth :=
    h.expandWithin_eq hregistry _ (Nat.zero_add _) hkey session
  rw [houtcome, Stream'.Seq.length'_le_iff, Trail.outcome, Stream'.Seq.TerminatedAt]
  cases keys.get? engine.config.maxDepth with
  | none => simp
  | some last => simp

/-- Data in which two keys come to an end and two others lead to one another. -/
def trailData : List (String × String) :=
  [("pot", mention "cup"), ("cup", "tea"), ("ping", mention "pong"), ("pong", mention "ping")]

def trailEngine : Engine :=
  ⟨{ Config.default with maxDepth := 2 }, Registry.default.register Builtin.idNumber,
    trailData.foldl (fun store (key, text) => store.set .en key (.scalar text)) Store.empty⟩

theorem leads_of_mem (h : (key, template) ∈ trailData) : trailEngine.Leads key template := by
  have hmember : ∀ entry ∈ trailData, entry.1.toList ≠ [] ∧
      entry.1.toList.all (fun c => c.isAlphanum || c == '_') = true ∧
      entry.1.toList.head?.all (fun c => !c.isDigit) = true := by decide +kernel
  have hdata : ∀ entry ∈ trailData, trailEngine.registry.root.get? entry.1 = none ∧
      trailEngine.leaf? entry.1 = some (.scalar entry.2) := by decide +kernel
  obtain ⟨hnonempty, hchars, hhead⟩ := hmember _ h
  obtain ⟨hoperation, hleaf⟩ := hdata _ h
  have hkey : IsMember key :=
    ⟨hnonempty, by simpa using hchars, by simpa [Option.all_eq_true] using hhead⟩
  exact ⟨hkey, hoperation, hleaf⟩

theorem trail_pot : trailEngine.Trail (.ofList ["pot", "cup"]) "tea" := by
  refine ⟨fun index key hkey => ?_, fun _ => by decide +kernel⟩
  rw [Stream'.Seq.ofList_get?] at hkey ⊢
  match index with
  | 0 => cases hkey; exact leads_of_mem (.head _)
  | 1 => cases hkey; exact leads_of_mem (.tail _ (.head _))
  | index + 2 => cases hkey

/-- Keys without an end. -/
def rally : Stream'.Seq String :=
  .ofStream fun index => if index % 2 = 0 then "ping" else "pong"

theorem get?_rally (index : Nat) :
    rally.get? index = some (if index % 2 = 0 then "ping" else "pong") := rfl

theorem trail_rally : trailEngine.Trail rally "" := by
  constructor
  · intro index key hkey
    rw [get?_rally] at hkey ⊢
    obtain rfl := Option.some.inj hkey
    rcases Nat.mod_two_eq_zero_or_one index with heven | hodd
    · rw [if_pos heven, if_neg (by omega)]
      exact leads_of_mem (.tail _ (.tail _ (.head _)))
    · rw [if_neg (by omega), if_pos (by omega)]
      exact leads_of_mem (.tail _ (.tail _ (.tail _ (.head _))))
  · rintro ⟨index, hend⟩
    rw [Stream'.Seq.TerminatedAt, get?_rally] at hend
    cases hend

theorem expand_of_trail_trailEngine :
    let session := Session.start (RandomSource.fixed 7)
    let cup : Stream'.Seq String := .ofList ["pot", "cup"]
    trailEngine.registry.Built ∧
      trailEngine.Trail cup "tea" ∧ cup.head = some "pot" ∧
      (trailEngine.expand (mention "pot") session).1 = .ok "tea" ∧
      trailEngine.Trail rally "" ∧ rally.head = some "ping" ∧
      (trailEngine.expand (mention "ping") session).1 = .error (.tooDeep (mention "ping") 2) := by
  intro session cup
  have hregistry : trailEngine.registry.Built := .register .default Builtin.idNumber
  have hcup : cup.length' ≤ trailEngine.config.maxDepth := Stream'.Seq.length'_le_iff.mpr rfl
  have hrally : ¬ rally.length' ≤ trailEngine.config.maxDepth := by
    rw [Stream'.Seq.length'_le_iff, Stream'.Seq.TerminatedAt, get?_rally]
    exact nofun
  have hpot := expand_of_trail hregistry trail_pot rfl session
  obtain ⟨last, hlast, hping⟩ := (expand_of_trail hregistry trail_rally rfl session).2 hrally
  obtain rfl : "ping" = last := Option.some.inj hlast
  exact ⟨hregistry, trail_pot, rfl, hpot.1.mpr hcup, trail_rally, rfl, hping⟩

end Engine

end Pastiche
