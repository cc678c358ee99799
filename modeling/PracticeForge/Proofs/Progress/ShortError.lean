import PracticeForge.Proofs.Text.Words
import PracticeForge.Proofs.Generation.Pool

/-!
# Proofs/Progress/ShortError — the error texts a slot's run tells

An error text fit for an event is squeezed (words joined by single spaces, no white space at
the ends), not empty, and at most `shortErrorMax` characters long (`IsShortError`).
`shortError` makes such a text of any message, cutting a long one to its first 157 characters
(trailing blanks dropped) with `...` after; and it leaves such a text as it is.  So these texts
are exactly its fixed points, and applying it twice is applying it once.

The errors a slot's run tells come by four routes: fixed texts, the judge's account of a run
that did not pass (`Verdict.describe`), the contract check's first issue through `shortError`,
and the last error through `shortError` when the slot fails.  The judge's account writes out
the number of failed tests, so it fits only while that number has at most 123 digits.

Main statements:
* `shortError_eq_self_iff` — the fixed points of `shortError` are the short error texts;
* `Verdict.isShortError_describe` — the judge's account is one exactly when it timed out or
  its count of failed tests has at most 123 digits;
* `Generation.runSlot_errors_short` — every error text a slot's run tells is a fixed point of
  `shortError`, whatever the model writes, when the judge's counts fit.
-/

namespace PracticeForge

/-! ## Short error texts -/

/-- **An error text fit for an event**: squeezed, not empty, and at most `shortErrorMax`
characters long. -/
structure IsShortError (t : String) : Prop where
  squeezed : Text.squeeze t = t
  ne_empty : t ≠ ""
  length_le : t.length ≤ shortErrorMax

instance (t : String) : Decidable (IsShortError t) :=
  decidable_of_iff (Text.squeeze t = t ∧ t ≠ "" ∧ t.length ≤ shortErrorMax)
    ⟨fun h => ⟨h.1, h.2.1, h.2.2⟩, fun h => ⟨h.squeezed, h.ne_empty, h.length_le⟩⟩

/-- A short error text is left as it is. -/
theorem shortErrorOr_of_isShortError (fallback : String) {t : String} (ht : IsShortError t) :
    shortErrorOr fallback t = t := by
  have hne : t.isEmpty = false := by simpa using ht.ne_empty
  simp [shortErrorOr, ht.squeezed, hne, Nat.not_lt.2 ht.length_le]

/-- A squeezed text cut to `shortErrorMax - 3` characters, trimmed at its end and marked with
`...`, is a short error text. -/
theorem isShortError_cut {text : String} (ht : Text.squeeze text = text) :
    IsShortError (Text.trimEnd (Text.take text (shortErrorMax - 3)) ++ "...") where
  squeezed :=
    Text.squeeze_append_word (Text.squeeze_trimEnd_of_prefix ht (Text.take_prefix text _))
      ⟨by simp, by simp; decide⟩
  ne_empty := by simp
  length_le := by
    have hcut : (Text.trimEnd (Text.take text (shortErrorMax - 3))).length ≤ shortErrorMax - 3 :=
      calc (Text.trimEnd (Text.take text (shortErrorMax - 3))).length
          = (Text.trimEnd (Text.take text (shortErrorMax - 3))).toList.length :=
            String.length_toList.symm
        _ ≤ (Text.take text (shortErrorMax - 3)).toList.length :=
            (Text.trimEnd_prefix _).length_le
        _ = (Text.take text (shortErrorMax - 3)).length := String.length_toList
        _ ≤ shortErrorMax - 3 := Text.length_take_le text _
    have hdots : "...".length = 3 := by decide
    rw [String.length_append, hdots]
    simp only [shortErrorMax] at hcut ⊢
    omega

/-- **`shortErrorOr` gives a short error text** when its fallback is one. -/
theorem isShortError_shortErrorOr {fallback : String} (hfb : IsShortError fallback)
    (message : String) : IsShortError (shortErrorOr fallback message) := by
  have hsq := Text.squeeze_squeeze message
  unfold shortErrorOr
  dsimp only
  split
  · exact hfb
  · next hne =>
    split
    · exact isShortError_cut hsq
    · next hlen => exact ⟨hsq, by simpa using hne, by omega⟩

theorem isShortError_shortError (message : String) : IsShortError (shortError message) :=
  isShortError_shortErrorOr (by decide) message

/-- **The fixed points of `shortError` are the short error texts.** -/
theorem shortError_eq_self_iff {t : String} : shortError t = t ↔ IsShortError t :=
  ⟨fun h => h ▸ isShortError_shortError t, shortErrorOr_of_isShortError _⟩

/-- **Applying `shortError` twice is applying it once.** -/
@[simp] theorem shortError_shortError (message : String) :
    shortError (shortError message) = shortError message :=
  shortErrorOr_of_isShortError _ (isShortError_shortError message)

example : shortError " Contract  check failed:\n missing\tfield " =
    "Contract check failed: missing field" := by decide

/-! ## The judge's account of a run that did not pass -/

namespace Verdict

/-- The account of `n` failed tests, read as its words. -/
theorem toList_failedAccount (n : Nat) :
    ("Reference solution failed " ++ toString n ++ " of " ++ toString Contract.testCaseCount ++
      " tests").toList =
      [' '].intercalate ["Reference".toList, "solution".toList, "failed".toList,
        Nat.toDigits 10 n, "of".toList, "8".toList, "tests".toList] := by
  have h8 : Nat.toDigits 10 8 = ['8'] := by decide
  simp [String.toList_append, Contract.testCaseCount, List.intercalate_cons_cons, h8]

/-- **The account of `n` failed tests is a short error text** exactly when `n` has at most 123
digits: the words around the count take 37 characters. -/
theorem isShortError_failedAccount (n : Nat) :
    IsShortError ("Reference solution failed " ++ toString n ++ " of " ++
      toString Contract.testCaseCount ++ " tests") ↔ n < 10 ^ 123 := by
  have hwords := toList_failedAccount n
  have hlen : ("Reference solution failed " ++ toString n ++ " of " ++
      toString Contract.testCaseCount ++ " tests").length = (Nat.toDigits 10 n).length + 37 := by
    rw [← String.length_toList, hwords]
    simp [List.intercalate_cons_cons]
  have hdigits : (Nat.toDigits 10 n).length ≤ 123 ↔ n < 10 ^ 123 :=
    Nat.length_toDigits_le_iff (by decide) (by decide)
  constructor
  · intro h
    have hle := h.length_le
    rw [hlen] at hle
    simp only [shortErrorMax] at hle
    exact hdigits.1 (by omega)
  · intro h
    have hcount := hdigits.2 h
    refine ⟨Text.squeeze_eq_of_words ?_ hwords, ?_, ?_⟩
    · simp only [List.mem_cons, List.not_mem_nil, or_false, forall_eq_or_imp, forall_eq]
      refine ⟨?_, ?_, ?_, Text.isWord_toDigits n, ?_, ?_, ?_⟩ <;> exact ⟨by simp, by simp; decide⟩
    · intro h0
      rw [h0] at hlen
      simp at hlen
    · rw [hlen]
      simp only [shortErrorMax]
      omega

/-- **The judge's account of a run is a short error text** exactly when the run timed out or
its count of failed tests has at most 123 digits. -/
theorem isShortError_describe (v : Verdict) :
    IsShortError v.describe ↔ v.timedOut = true ∨ v.failed.length < 10 ^ 123 := by
  unfold describe
  split
  · next ht => simp only [ht, true_or, iff_true]; decide
  · next ht =>
    simp only [ht, Bool.false_eq_true, false_or]
    split
    · exact isShortError_failedAccount _
    · next hf =>
      have hnil : v.failed = [] := by simpa using hf
      simp only [hnil, List.length_nil]
      constructor <;> decide

end Verdict

/-! ## The errors events carry -/

/-- The error text an event carries, if it carries one. -/
def ProgressEvent.errorText? : ProgressEvent → Option String
  | .contractFailed _ e | .judgeFailed _ e _ | .slotFailed _ _ e | .generationFailed e _ => some e
  | _ => none

namespace Generation

variable {σ : Type}

/-- A judge reply whose verdict, if it gives one, counts fewer than `10 ^ 123` failed tests: a
count that fits an error text once written out. -/
def CountFits : JudgeReply → Prop
  | .verdict v => v.failed.length < 10 ^ 123
  | .unavailable _ | .broken _ => True

/-- **The judge's counts fit**: in every world, its verdict on any files counts fewer than
`10 ^ 123` failed tests. -/
def Services.CountsFit (svc : Services σ) : Prop :=
  ∀ lang files suite w, CountFits (svc.judge lang files suite w).1

/-- Every judge reply of a trace is one the judge gives in some world. -/
theorem Services.Trace.judged_reply {svc : Services σ} {w w' : σ} {xs : List Exchange}
    (h : svc.Trace w xs w') {r : JudgeReply} (hr : r ∈ xs.filterMap Exchange.judgeReply?) :
    ∃ lang files suite w₀, (svc.judge lang files suite w₀).1 = r := by
  induction h with
  | nil => simp at hr
  | asked _ _ ih =>
    simp only [List.filterMap_cons, Exchange.judgeReply?] at hr
    exact ih hr
  | judged hj _ ih =>
    simp only [List.filterMap_cons, Exchange.judgeReply?] at hr
    rcases List.mem_cons.1 hr with rfl | hr
    · exact ⟨_, _, _, _, by rw [hj]⟩
    · exact ih hr
  | slept _ ih =>
    simp only [List.filterMap_cons, Exchange.judgeReply?] at hr
    exact ih hr
  | told _ ih =>
    simp only [List.filterMap_cons, Exchange.judgeReply?] at hr
    exact ih hr

/-- The error a result fails with, if it fails. -/
def Attempt.Result.error? : Attempt.Result → Option String
  | .failed e => some e
  | .done _ | .defect _ => none

/-- **An attempt tells the error it fails with**, and no other. -/
theorem Attempt.errorTexts_events (mode : String) (idx : Int) (k : Nat) (a : Attempt) :
    (a.events idx k).filterMap ProgressEvent.errorText? = (a.result mode).error?.toList := by
  cases a with
  | judged raw d v =>
    simp only [Attempt.events, Attempt.result]
    split
    · simp [List.filterMap_cons, ProgressEvent.errorText?, Attempt.Result.error?]
    · split <;> simp [List.filterMap_cons, ProgressEvent.errorText?, Attempt.Result.error?]
  | _ =>
    simp [Attempt.events, Attempt.result, List.filterMap_cons, ProgressEvent.errorText?,
      Attempt.Result.error?]

/-- **The errors a run of attempts tells are the errors its attempts fail with**, in order. -/
theorem Attempt.errorTexts_trail (mode : String) (idx : Int) :
    ∀ (k : Nat) (atts : List Attempt),
      (Attempt.trail idx k atts).filterMap ProgressEvent.errorText? =
        atts.filterMap fun a => (a.result mode).error?
  | _, [] => rfl
  | k, a :: atts => by
    rw [Attempt.trail, List.filterMap_append, Attempt.errorTexts_events mode,
      errorTexts_trail mode idx (k + 1) atts, List.filterMap_cons]
    cases (a.result mode).error? <;> rfl

/-- **The error an attempt fails with is a short error text**, when the judge's verdict on its
draft, if any, has a count that fits: a fixed text, a contract failure through `shortError`, or
the judge's account of the run. -/
theorem Attempt.isShortError_error {a : Attempt} (ha : ∀ r ∈ a.judgeReply, CountFits r)
    {mode e : String} (he : e ∈ (a.result mode).error?) : IsShortError e := by
  cases a with
  | unreachable p m =>
    simp only [Attempt.result, Attempt.Result.error?, Option.mem_def, Option.some.injEq] at he
    subst he
    decide
  | rejected raw r =>
    simp only [Attempt.result, Attempt.Result.error?, Option.mem_def, Option.some.injEq] at he
    subst he
    exact isShortError_shortError _
  | judgeDown raw d m =>
    simp only [Attempt.result, Attempt.Result.error?, Option.mem_def, Option.some.injEq] at he
    subst he
    decide
  | judged raw d v =>
    have hv : v.failed.length < 10 ^ 123 := ha (.verdict v) rfl
    simp only [Attempt.result] at he
    split at he
    · simp only [Attempt.Result.error?, Option.mem_def, Option.some.injEq] at he
      subst he
      exact (Verdict.isShortError_describe v).2 (.inr hv)
    · split at he <;> simp [Attempt.Result.error?] at he
  | modelBroke f => simp [Attempt.result, Attempt.Result.error?] at he
  | unreadable raw err => simp [Attempt.result, Attempt.Result.error?] at he
  | judgeBroke raw d f => simp [Attempt.result, Attempt.Result.error?] at he

/-- **Every error a slot's run tells is a short error text**, when the judge's verdicts in it
have counts that fit: the errors its attempts fail with, and the last of them through
`shortError` when the slot fails. -/
theorem SlotRun.shortErrors {mode : String} {slot : Slot} {atts : List Attempt}
    {xs : List Exchange} {r : Except Failure SlotState} (h : SlotRun mode slot atts xs r)
    (hatts : ∀ a ∈ atts, ∀ r ∈ a.judgeReply, CountFits r) :
    ∀ t ∈ (xs.filterMap Exchange.event?).filterMap ProgressEvent.errorText?, IsShortError t := by
  have htrail : ∀ t ∈ (Attempt.trail slot.index 1 atts).filterMap ProgressEvent.errorText?,
      IsShortError t := by
    intro t ht
    rw [Attempt.errorTexts_trail mode] at ht
    obtain ⟨a, ha, he⟩ := List.mem_filterMap.1 ht
    exact Attempt.isShortError_error (hatts a ha) he
  have hended := h.ended
  cases r with
  | error f =>
    rw [hended.2]
    simpa only [List.filterMap_cons, slotOpening, ProgressEvent.errorText?] using htrail
  | ok s =>
    rcases hended.2.2 with ⟨-, -, -, a, err, -, -, -, hev⟩ | ⟨-, -, hev⟩
    · -- FAILED: the closing event tells the last error through `shortError`
      rw [hev]
      intro t ht
      simp only [List.cons_append, List.filterMap_cons, List.filterMap_append, slotOpening,
        ProgressEvent.errorText?, List.filterMap_nil, List.mem_append, List.mem_singleton] at ht
      rcases ht with ht | rfl
      · exact htrail t ht
      · exact isShortError_shortError err
    · -- DONE: the closing event tells no error
      rw [hev]
      simpa only [List.cons_append, List.filterMap_cons, List.filterMap_append, slotOpening,
        ProgressEvent.errorText?, List.filterMap_nil, List.append_nil] using htrail

/-- The judge's replies to the attempts of a slot's run come from the judge, so their counts
fit when the judge's do. -/
theorem SlotRun.countsFit {svc : Services σ} (hsvc : svc.CountsFit) {w w' : σ}
    {mode : String} {slot : Slot} {atts : List Attempt} {xs : List Exchange}
    {r : Except Failure SlotState} (htrace : svc.Trace w xs w') (h : SlotRun mode slot atts xs r) :
    ∀ a ∈ atts, ∀ r ∈ a.judgeReply, CountFits r := by
  intro a ha r hr
  have hmem : r ∈ xs.filterMap Exchange.judgeReply? := by
    rw [h.verdicts]
    exact List.mem_filterMap.2 ⟨a, ha, hr⟩
  obtain ⟨lang, files, suite, w₀, hj⟩ := htrace.judged_reply hmem
  rw [← hj]
  exact hsvc lang files suite w₀

/-- **Every error text a slot's run tells is a fixed point of `shortError`**: squeezed, not
empty and at most `shortErrorMax` characters long, whatever the model writes and however the
services answer, as long as the judge's counts of failed tests fit such a text. -/
theorem runSlot_errors_short (svc : Services σ) (hsvc : svc.CountsFit) (cfg : RunConfig)
    (spec : ActivitySpec) (slot : Slot) (w : σ) :
    ∃ (atts : List Attempt) (xs : List Exchange),
      svc.Trace w xs ((runSlot svc cfg spec slot).run' w).2 ∧
      SlotRun cfg.learningMode slot atts xs ((runSlot svc cfg spec slot).run' w).1 ∧
      ∀ e ∈ xs.filterMap Exchange.event?, ∀ t ∈ e.errorText?,
        IsShortError t ∧ shortError t = t := by
  obtain ⟨atts, xs, htrace, hrun⟩ := runSlot_explained svc cfg spec slot w
  refine ⟨atts, xs, htrace, hrun, fun e he t ht => ?_⟩
  have hshort :=
    hrun.shortErrors (hrun.countsFit hsvc htrace) t (List.mem_filterMap.2 ⟨e, he, ht⟩)
  exact ⟨hshort, shortError_eq_self_iff.2 hshort⟩

/-- Services whose model is out of reach and whose judge fails one test of every suite. -/
def modelOutOfReach : Services Unit where
  complete _ w := (.unavailable "gateway" "out of reach", w)
  judge _ _ _ w := (.verdict ⟨false, [], ["test_case_1"], "", "", false, some 1, 0⟩, w)
  sleep _ w := w
  publish _ w := w

theorem modelOutOfReach_errors_short :
    modelOutOfReach.CountsFit ∧
      ∃ (atts : List Attempt) (xs : List Exchange),
        modelOutOfReach.Trace () xs
          ((runSlot modelOutOfReach practiceNow twoEasy ⟨0, .easy, "math", .python, .returned⟩).run'
            ()).2 ∧
        SlotRun "practice" ⟨0, .easy, "math", .python, .returned⟩ atts xs
          ((runSlot modelOutOfReach practiceNow twoEasy ⟨0, .easy, "math", .python, .returned⟩).run'
            ()).1 ∧
        ∀ e ∈ xs.filterMap Exchange.event?, ∀ t ∈ e.errorText?,
          IsShortError t ∧ shortError t = t := by
  have hfit : modelOutOfReach.CountsFit := fun _ _ _ _ =>
    (by decide : ["test_case_1"].length < 10 ^ 123)
  exact ⟨hfit, runSlot_errors_short modelOutOfReach hfit practiceNow twoEasy _ ()⟩

end Generation

end PracticeForge
