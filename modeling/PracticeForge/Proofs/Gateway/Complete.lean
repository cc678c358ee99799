import PracticeForge.Proofs.Effect
import PracticeForge.Proofs.Basic
import PracticeForge.Gateway.Complete

/-!
# Proofs/Gateway/Complete — how a completion can end

A completion hands back a text that is not blank, or fails as a completion failure: no provider
could be chosen, the provider's call failed (with whatever it failed with), or its answer was
empty or blank.  There is one way out of that: an answer that is neither a text nor empty (a
number, a list or an object where the text should be, as an Ollama server may send) makes the
blankness check itself fail, with the `AttributeError` of a value that has no `strip`.  An
Anthropic answer is always read as a text, so it never takes that way.

Main statement: `CompletionGateway.complete_outcome`, for any settings, run-time choice, kept
clients and behaviour of the SDKs.
-/

namespace PracticeForge

/-- A provider that cannot be chosen is a completion failure. -/
theorem resolveTarget_error {rt : RuntimeConfig} {st : Settings} {e : Failure}
    (h : resolveTarget rt st = .error e) : ∃ p m, e = .completion p m := by
  unfold resolveTarget at h
  simp only [bind, Except.bind, pure, Except.pure, throw, throwThe, MonadExceptOf.throw] at h
  split at h
  · split at h
    · split at h
      · -- a hosted provider without a key
        cases h
        exact ⟨_, _, rfl⟩
      · cases h
    · -- a provider of no known name
      cases h
      exact ⟨_, _, rfl⟩
  · -- no provider at all
    cases h
    exact ⟨_, _, rfl⟩

namespace Gateway

/-- A failed provider call is reported as a completion failure. -/
theorem asCompletion_completion (p : Provider) (e : Failure) :
    ∃ q m, asCompletion p e = .completion q m := by
  unfold asCompletion
  split
  · next q m => exact ⟨q, m, rfl⟩
  · exact ⟨_, _, rfl⟩

/-- An answer that is taken is a text that is not blank. -/
theorem finish_ok {p : Provider} {v : Json} {s : String} (h : finish p v = .ok s) :
    v = .str s ∧ (Text.trim s).isEmpty = false := by
  unfold finish at h
  split at h
  · split at h
    · cases h
    · next hs =>
      cases h
      exact ⟨rfl, by simpa using hs⟩
  · split at h <;> cases h

/-- An answer is refused as empty, unless it is a value other than a text that is not empty:
then the check fails on it. -/
theorem finish_error {p : Provider} {v : Json} {e : Failure} (h : finish p v = .error e) :
    e = .completion p.name "Empty response" ∨
      v.getStr? = none ∧ v.truthy = true ∧
        e = .system "AttributeError" ("'" ++ v.kindName ++ "' object has no attribute 'strip'") := by
  unfold finish at h
  split at h
  · split at h
    · exact .inl (Except.error.inj h).symm
    · cases h
  · next hstr =>
    split at h
    · next ht => exact .inr ⟨by cases v <;> simp_all [Json.getStr?], ht, (Except.error.inj h).symm⟩
    · exact .inl (Except.error.inj h).symm

/-- The answer of Anthropic is read as a text: its text blocks joined. -/
theorem responseText_anthropic {r v : Json} (h : responseText .anthropic r = .ok v) :
    ∃ s, v = .str s := by
  unfold responseText blocksText at h
  obtain ⟨texts, -, h⟩ := Except.bind_eq_ok.1 h
  exact ⟨_, (Except.pure_eq_ok.1 h).symm⟩

/-- Completing through a call: its answer is checked, and its failure reported as a completion
failure, from the state the call left. -/
theorem completeVia_run' {τ : Type} (t : Target) (call : Effect τ Json) (st : τ) :
    (completeVia t call).run' st = match call.run' st with
      | (.ok v, st') => (finish t.provider v, st')
      | (.error e, st') => (.error (asCompletion t.provider e), st') := by
  simp only [completeVia, Effect.run'_bind, Effect.run'_tryCatch]
  rcases call.run' st with ⟨_ | _, st'⟩ <;> rfl

end Gateway

namespace CompletionGateway

variable {σ : Type} (sdk : Sdk σ)

theorem resolve_run' (g : CompletionGateway) (w : σ) :
    (resolve (σ := σ)).run' (g, w) = (resolveTarget g.config g.settings, (g, w)) := rfl

/-- What a provider call gives is the text read out of some response. -/
theorem call_value {t : Target} {ask : Gateway.Ask} {st st' : CompletionGateway × σ} {v : Json}
    (h : (call sdk t ask).run' st = (.ok v, st')) :
    ∃ response, Gateway.responseText t.provider response = .ok v := by
  unfold call at h
  simp only at h
  -- OpenAI and Anthropic make or keep their client first; then the call, then the reading
  split at h
  · obtain ⟨_, st1, -, h⟩ := Effect.run'_bind_eq_ok h
    obtain ⟨resp, st2, -, h⟩ := Effect.run'_bind_eq_ok h
    obtain ⟨response, st3, -, h⟩ := Effect.run'_bind_eq_ok h
    exact ⟨response, by simpa using congrArg Prod.fst h⟩
  · obtain ⟨resp, st2, -, h⟩ := Effect.run'_bind_eq_ok h
    obtain ⟨response, st3, -, h⟩ := Effect.run'_bind_eq_ok h
    exact ⟨response, by simpa using congrArg Prod.fst h⟩

/-- **How a completion ends**, for any settings, run-time choice, kept clients and SDK
behaviour: with a text that is not blank; or with a completion failure; or, only when the
provider (never Anthropic) answered with a value that is neither a text nor empty, with the
`AttributeError` of that value. -/
theorem complete_outcome (ask : Gateway.Ask) (g : CompletionGateway) (w : σ) :
    (∃ s gw, (complete sdk ask).run' (g, w) = (.ok s, gw) ∧ (Text.trim s).isEmpty = false) ∨
      (∃ p m gw, (complete sdk ask).run' (g, w) = (.error (.completion p m), gw)) ∨
      ∃ t v gw, resolveTarget g.config g.settings = .ok t ∧ t.provider ≠ .anthropic ∧
        (call sdk t ask).run' (g, w) = (.ok v, gw) ∧ v.getStr? = none ∧ v.truthy = true ∧
        (complete sdk ask).run' (g, w) =
          (.error (.system "AttributeError" ("'" ++ v.kindName ++ "' object has no attribute 'strip'")),
            gw) := by
  unfold complete
  rw [Effect.run'_bind, resolve_run']
  rcases ht : resolveTarget g.config g.settings with e | t
  · -- no provider could be chosen
    obtain ⟨p, m, rfl⟩ := resolveTarget_error ht
    exact .inr (.inl ⟨p, m, _, rfl⟩)
  · dsimp only
    rw [Gateway.completeVia_run']
    rcases hc : (call sdk t ask).run' (g, w) with ⟨e | v, gw⟩
    · -- the call failed
      obtain ⟨p, m, hpm⟩ := Gateway.asCompletion_completion t.provider e
      exact .inr (.inl ⟨p, m, gw, by dsimp only; rw [hpm]⟩)
    · dsimp only
      rcases hf : Gateway.finish t.provider v with e | s
      · rcases Gateway.finish_error hf with rfl | ⟨hs, htr, rfl⟩
        · exact .inr (.inl ⟨_, _, gw, rfl⟩)
        · -- the answer is no text: not an Anthropic one
          refine .inr (.inr ⟨t, v, gw, rfl, fun hp => ?_, hc, hs, htr, rfl⟩)
          obtain ⟨resp, hr⟩ := call_value sdk hc
          rw [hp] at hr
          obtain ⟨s, rfl⟩ := Gateway.responseText_anthropic hr
          cases hs
      · exact .inl ⟨s, gw, rfl, (Gateway.finish_ok hf).2⟩

end CompletionGateway

end PracticeForge
