import PracticeForge.Judge.Docker
import PracticeForge.Proofs.Basic

/-!
# Proofs/Judge/Outcome — where the judge writes, and what its verdicts promise

A file name that passes the name rules resolves to parts none of which is empty, `.` or `..`,
so every directory and file the judge creates lies strictly below its fresh root
(`writeUserFiles_inside`), and the container only ever runs over such a workspace
(`judge_runs_inside`).  Passing the name rules is not enough for the file system, though: a name
that resolves to the root itself, or a file and a directory of one name, are refused by the file
system, and that refusal ends the judging as a failure of its own (`judge_error`), beside the
container tool's.  A file is refused as the test file only by its name as written: one whose
name merely resolves there, such as `./test_solution.py`, is written over by the suite before
the run (`judge_ok`).  `judge_outcome` puts every way a judging ends together.

A passing verdict comes from a finished run that exited with 0, in time, within the output
limit, and named no failed test (`judge_success`).  For Python the passed tests are then every
test the suite defines; for the other languages they are whatever the run reported, which may be
none.
-/

namespace PracticeForge

namespace Judge

/-! ## Paths below the root -/

/-- A name part that keeps a path where it is: not empty, not `.`, not `..`. -/
def StaysPut (part : String) : Prop := part ≠ "" ∧ part ≠ "." ∧ part ≠ ".."

/-- A path strictly below the root: at least one part, each keeping the path where it is. -/
def Below (p : List String) : Prop := p ≠ [] ∧ ∀ x ∈ p, StaysPut x

/-- Resolving `.`, `..` and empty parts leaves only parts that stay put. -/
theorem resolveParts_staysPut {acc parts r : List String} (h : resolveParts acc parts = some r)
    (hacc : ∀ x ∈ acc, StaysPut x) : ∀ x ∈ r, StaysPut x := by
  fun_induction resolveParts acc parts with
  | case1 acc =>
    cases h
    simpa using hacc
  | case2 _ _ ih => exact ih h hacc
  | case3 _ _ ih => exact ih h hacc
  | case4 => cases h
  | case5 _ _ _ ih => exact ih h fun x hx => hacc x (List.mem_cons_of_mem _ hx)
  | case6 acc part _ hempty hdot hup hup' ih =>
    -- a part pushed on the stack is none of the three special ones
    have hpart : StaysPut part := by
      refine ⟨hempty, hdot, fun hdd => ?_⟩
      cases acc with
      | nil => exact hup rfl hdd
      | cons y acc => exact hup' y acc rfl hdd
    exact ih h fun x hx => (List.mem_cons.1 hx).elim (· ▸ hpart) (hacc x)

/-- A name the rules accept resolves to parts that stay put. -/
theorem placeOf_staysPut {name : String} {parts : List String} (h : placeOf name = .ok parts) :
    ∀ x ∈ parts, StaysPut x := by
  unfold placeOf at h
  split at h
  · simp at h
  split at h
  · simp at h
  split at h
  · simp at h
  split at h
  · simp at h
  split at h
  · next r hr =>
    cases h
    exact resolveParts_staysPut hr (by simp)
  · simp at h

/-! ## The written tree -/

namespace Tree

/-- Every entry of the tree lies strictly below its root. -/
def Inside (t : Tree) : Prop := ∀ e ∈ t.entries, Below e.1

theorem empty_inside : Tree.empty.Inside := by simp [Inside, empty]

theorem put_inside {t : Tree} {p : List String} (n : Node) (ht : t.Inside) (hp : Below p) :
    (t.put p n).Inside := by
  intro e he
  simp only [put, List.mem_append, List.mem_filter, List.mem_singleton] at he
  rcases he with ⟨he, -⟩ | rfl
  · exact ht e he
  · exact hp

theorem mkdir_inside {t t' : Tree} {p : List String} (ht : t.Inside) (hp : ∀ x ∈ p, StaysPut x)
    (h : t.mkdir p = .ok t') : t'.Inside := by
  unfold mkdir at h
  split at h
  · cases h
  split at h
  · cases h
  split at h
  · cases h
  · next hne =>
    cases h
    exact put_inside _ ht ⟨fun hp0 => hne (by simp [hp0]), hp⟩

/-- Making the directories above a path keeps the tree inside its root. -/
theorem makeDirs_inside {p : List String} (hp : ∀ x ∈ p, StaysPut x) :
    ∀ {k : Nat} {t t' : Tree}, t.Inside → makeDirs p k t = .ok t' → t'.Inside
  | 0, t, t', ht, h => by cases h; exact ht
  | k + 1, t, t', ht, h => by
    rw [makeDirs] at h
    have hhere : ∀ x ∈ p.take (k + 1), StaysPut x := fun x hx => hp x (List.mem_of_mem_take hx)
    -- the directories above come first when missing, then this one
    split at h
    · obtain ⟨t1, h1, h⟩ := Except.bind_eq_ok.1 h
      have ht1 := makeDirs_inside hp ht h1
      dsimp only at h
      split at h
      · next t2 hmk => cases h; exact mkdir_inside ht1 hhere hmk
      · split at h
        · cases h; exact ht1
        · cases h
    · rw [pure_bind] at h
      dsimp only at h
      split at h
      · next t2 hmk => cases h; exact mkdir_inside ht hhere hmk
      · split at h
        · cases h; exact ht
        · cases h

theorem writeFile_inside {t t' : Tree} {p : List String} {content : String} (ht : t.Inside)
    (hp : ∀ x ∈ p, StaysPut x) (h : t.writeFile p content = .ok t') : t'.Inside := by
  unfold writeFile at h
  split at h
  · cases h
  · next hne =>
    split at h
    · cases h
    split at h
    · cases h
    split at h
    · cases h
    · cases h
      exact put_inside _ ht ⟨fun hp0 => hne (by simp [hp0]), hp⟩

/-- The entry set at a path is the one read back there. -/
theorem node?_put_self (t : Tree) {p : List String} (n : Node) (hp : p ≠ []) :
    (t.put p n).node? p = some n := by
  unfold node? put
  have hkept : (t.entries.filter (·.1 != p)).find? (·.1 == p) = none := by
    rw [List.find?_eq_none]
    intro e he
    simpa using (List.mem_filter.1 he).2
  simp [hp, List.find?_append, hkept]

/-- A file written stands at its path with its content. -/
theorem writeFile_places {t t' : Tree} {p : List String} {content : String}
    (h : t.writeFile p content = .ok t') : t'.node? p = some (.file content) := by
  unfold writeFile at h
  split at h
  · cases h
  · next hne =>
    split at h
    · cases h
    split at h
    · cases h
    split at h
    · cases h
    · cases h
      exact node?_put_self t _ fun hp0 => hne (by simp [hp0])

end Tree

theorem writeOne_inside {root name content : String} {t t' : Tree} (ht : t.Inside)
    (h : writeOne root t name content = .ok t') : t'.Inside := by
  unfold writeOne at h
  obtain ⟨parts, hparts, h⟩ := Except.bind_eq_ok.1 h
  have hput := placeOf_staysPut hparts
  obtain ⟨t1, h1, h⟩ := Except.bind_eq_ok.1 h
  obtain ⟨t2, h2, h⟩ := Except.bind_eq_ok.1 h
  have ht1 : t1.Inside :=
    Tree.makeDirs_inside (fun x hx => hput x (List.dropLast_subset _ hx)) ht
      (Except.mapError_eq_ok.1 h1)
  have ht2 : t2.Inside := Tree.writeFile_inside ht1 hput (Except.mapError_eq_ok.1 h2)
  split at h
  · cases h
  · cases h; exact ht2

/-- A file written by name stands where its name resolves to, with its content. -/
theorem writeOne_places {root name content : String} {t t' : Tree} {parts : List String}
    (hparts : placeOf name = .ok parts) (h : writeOne root t name content = .ok t') :
    t'.node? parts = some (.file content) := by
  unfold writeOne at h
  obtain ⟨parts', hparts', h⟩ := Except.bind_eq_ok.1 h
  obtain rfl : parts' = parts := Except.ok.inj (hparts'.symm.trans hparts)
  obtain ⟨t1, -, h⟩ := Except.bind_eq_ok.1 h
  obtain ⟨t2, h2, h⟩ := Except.bind_eq_ok.1 h
  split at h
  · cases h
  · cases h; exact Tree.writeFile_places (Except.mapError_eq_ok.1 h2)

/-- **Files land below the root.**  Whatever the names, every entry the writer leaves, up to a
refusal, lies strictly below the root. -/
theorem writeUserFiles_inside (root : String) :
    ∀ {t : Tree} (files : List (String × String)), t.Inside → (writeUserFiles root t files).1.Inside
  | _, [], ht => ht
  | t, (name, content) :: rest, ht => by
    -- unfolded, not rewritten by its equation: matching that would unfold `writeOne`
    unfold writeUserFiles
    split
    · next t1 h1 => exact writeUserFiles_inside root rest (writeOne_inside ht h1)
    · exact ht

theorem inside_of_writeUserFiles {root : String} {t t' : Tree} {files : List (String × String)}
    {fo : Option Failure} (ht : t.Inside) (h : writeUserFiles root t files = (t', fo)) :
    t'.Inside := by
  simpa [h] using writeUserFiles_inside root files ht

/-- The name rules refuse with a bad value. -/
theorem placeOf_error {name : String} {f : Failure} (h : placeOf name = .error f) :
    ∃ m, f = .badValue m := by
  unfold placeOf at h
  split at h
  · cases h; exact ⟨_, rfl⟩
  split at h
  · cases h; exact ⟨_, rfl⟩
  split at h
  · cases h; exact ⟨_, rfl⟩
  split at h
  · cases h; exact ⟨_, rfl⟩
  split at h
  · cases h
  · cases h; exact ⟨_, rfl⟩

/-- What refusals the writer can end with: a name refused by the rules, a refusal of the file
system, or a text that cannot be encoded. -/
theorem writeOne_error {root name content : String} {t : Tree} {f : Failure}
    (h : writeOne root t name content = .error f) :
    (∃ m, f = .badValue m) ∨ (∃ cls m, f = .system cls m) ∨ (∃ m, f = .unencodable m) := by
  unfold writeOne at h
  rcases Except.bind_eq_error.1 h with h | ⟨parts, -, h⟩
  · exact .inl (placeOf_error h)
  rcases Except.bind_eq_error.1 h with h | ⟨t1, -, h⟩
  · cases hm : Tree.makeDirs parts.dropLast parts.dropLast.length t with
    | ok _ => simp only [hm, Except.mapError, reduceCtorEq] at h
    | error e => simp only [hm, Except.mapError] at h; cases h; exact .inr (.inl ⟨_, _, rfl⟩)
  rcases Except.bind_eq_error.1 h with h | ⟨t2, -, h⟩
  · cases hw : t1.writeFile parts content with
    | ok _ => simp only [hw, Except.mapError, reduceCtorEq] at h
    | error e => simp only [hw, Except.mapError] at h; cases h; exact .inr (.inl ⟨_, _, rfl⟩)
  · split at h
    · cases h; exact .inr (.inr ⟨_, rfl⟩)
    · cases h

theorem writeUserFiles_error (root : String) {files : List (String × String)} :
    ∀ {t t' : Tree} {f : Failure}, writeUserFiles root t files = (t', some f) →
      (∃ m, f = .badValue m) ∨ (∃ cls m, f = .system cls m) ∨ (∃ m, f = .unencodable m) := by
  induction files with
  | nil =>
    intro t t' f h
    unfold writeUserFiles at h
    rw [Prod.mk.injEq] at h
    cases h.2
  | cons file rest ih =>
    intro t t' f h
    unfold writeUserFiles at h
    split at h
    · exact ih h
    · next e he => cases h; exact writeOne_error he

/-! ## Judging -/

variable {σ : Type} {settings : Settings} {mkdtemp : σ → String × σ} {suite : String}
  {lang : Language} {files : List (String × String)} {w w' : σ}

/-- Writing a single file that the writer takes leaves it at its place, with its content. -/
theorem writeUserFiles_single {root name content : String} {t t' : Tree} {parts : List String}
    (hparts : placeOf name = .ok parts) (h : writeUserFiles root t [(name, content)] = (t', none)) :
    t'.node? parts = some (.file content) := by
  unfold writeUserFiles at h
  split at h
  · next t1 h1 =>
    unfold writeUserFiles at h
    rw [Prod.mk.injEq] at h
    rw [← h.1]
    exact writeOne_places hparts h1
  · cases h

/-- The judging as its steps decide it: a refused name ends it with a failed verdict that
gives the reason, and so does a file named as the test file is, as written; otherwise the
container runs over a workspace written inside the directory made for it, where the suite
stands at the place the test file's name resolves to, and the verdict is read from its run. -/
theorem judge_ok {run : ProcessRunner σ} {v : Verdict}
    (h : judge settings run mkdtemp lang files suite w = (.ok v, w')) :
    (∃ m, v = Verdict.refused m ∧ w' = (mkdtemp w).2) ∨
    ∃ t p, t.Inside ∧ (files.any fun f => f.1 == testFileOf lang files suite) = false ∧
      (∀ parts, placeOf (testFileOf lang files suite) = .ok parts →
        t.node? parts = some (.file suite)) ∧
      run (settings.dockerCommand :: dockerArgs lang (mkdtemp w).1) t settings.judgeTimeoutSeconds
        (mkdtemp w).2 = (.ok p, w') ∧ v = readVerdict lang suite p := by
  unfold judge at h
  dsimp only at h
  split at h
  · split at h
    · cases h; exact .inl ⟨_, rfl, rfl⟩
    · cases h
  · next t1 h1 =>
    have ht1 : t1.Inside := inside_of_writeUserFiles Tree.empty_inside h1
    split at h
    · cases h; exact .inl ⟨_, rfl, rfl⟩
    · next hany =>
      split at h
      · cases h
      · next t2 h2 =>
        have ht2 : t2.Inside := inside_of_writeUserFiles ht1 h2
        split at h
        · cases h
        · next p w2 hrun =>
          split at h
          · cases h
          · cases h
            exact .inr ⟨t2, p, ht2, Bool.eq_false_iff.2 hany,
              fun _ hparts => writeUserFiles_single hparts h2, hrun, rfl⟩

/-- **The container runs only inside its directory.**  Two runners that agree on every
workspace lying strictly below the directory give the same judging. -/
theorem judge_runs_inside {run run' : ProcessRunner σ}
    (hrun : ∀ cmd t timeout w, t.Inside → run cmd t timeout w = run' cmd t timeout w) :
    judge settings run mkdtemp lang files suite w =
      judge settings run' mkdtemp lang files suite w := by
  unfold judge
  dsimp only
  split
  · rfl
  · next t1 h1 =>
    have ht1 : t1.Inside := inside_of_writeUserFiles Tree.empty_inside h1
    split
    · rfl
    split
    · rfl
    · next t2 h2 =>
      have ht2 : t2.Inside := inside_of_writeUserFiles ht1 h2
      rw [hrun _ _ _ _ ht2]

/-- A command run by `runProcess` fails only when it cannot start, as a failure of the judge. -/
theorem runProcess_error {start : ProcessStarter σ} {cmd : List String} {t : Tree}
    {timeout : Binary64} {f : Failure} (h : runProcess start cmd t timeout w = (.error f, w')) :
    ∃ m, f = .sandbox m := by
  unfold runProcess at h
  split at h
  · cases h
  · cases h; exact ⟨_, rfl⟩

/-- **How a judging fails.**  Either writing the workspace was refused (a name or a text the
writer refuses, or the file system), before the container ran; or the container tool failed
itself; or the runner failed, which `runProcess` does only as a failure of the judge
(`runProcess_error`). -/
theorem judge_error {run : ProcessRunner σ} {f : Failure}
    (h : judge settings run mkdtemp lang files suite w = (.error f, w')) :
    (w' = (mkdtemp w).2 ∧
      ((∃ cls m, f = .system cls m) ∨ (∃ m, f = .badValue m) ∨ ∃ m, f = .unencodable m)) ∨
    (∃ m, f = .sandbox ("docker failed: " ++ m)) ∨
    ∃ t, t.Inside ∧
      run (settings.dockerCommand :: dockerArgs lang (mkdtemp w).1) t settings.judgeTimeoutSeconds
        (mkdtemp w).2 = (.error f, w') := by
  unfold judge at h
  dsimp only at h
  split at h
  · next f1 h1 =>
    split at h
    · cases h
    · next hbad =>
      -- a refusal that is no bad value comes from the file system
      cases h
      refine .inl ⟨rfl, ?_⟩
      rcases writeUserFiles_error _ h1 with ⟨m, rfl⟩ | hsys | ⟨m, rfl⟩
      · simp [Failure.isBadValue] at hbad
      · exact .inl hsys
      · simp [Failure.isBadValue] at hbad
  · next t1 h1 =>
    have ht1 : t1.Inside := inside_of_writeUserFiles Tree.empty_inside h1
    split at h
    · cases h
    split at h
    · next f2 h2 =>
      cases h
      rcases writeUserFiles_error _ h2 with hbad | hsys | henc
      · exact .inl ⟨rfl, .inr (.inl hbad)⟩
      · exact .inl ⟨rfl, .inl hsys⟩
      · exact .inl ⟨rfl, .inr (.inr henc)⟩
    · next t2 h2 =>
      have ht2 : t2.Inside := inside_of_writeUserFiles ht1 h2
      split at h
      · next hrun => cases h; exact .inr (.inr ⟨t2, ht2, hrun⟩)
      · split at h
        · cases h; exact .inr (.inl ⟨_, rfl⟩)
        · cases h

/-! ## Passing verdicts -/

theorem readVerdict_exitCode (p : ProcessResult) :
    (readVerdict lang suite p).exitCode = some p.exitCode := by
  unfold readVerdict
  split
  rfl

theorem readVerdict_timedOut (p : ProcessResult) :
    (readVerdict lang suite p).timedOut = p.timedOut := by
  unfold readVerdict
  split
  rfl

/-- A verdict read from a run passes only when the run exited with 0, in time, within the
output limit, and named no failed test; for Python its passed tests are then the suite's. -/
theorem readVerdict_success {p : ProcessResult} (h : (readVerdict lang suite p).success = true) :
    p.exitCode = 0 ∧ p.timedOut = false ∧ p.outputOverflow = false ∧
      (readVerdict lang suite p).failed = [] ∧
      (lang = .python → (readVerdict lang suite p).passed = pytestNames suite) := by
  -- the outcome lists are taken apart by `split`: unfolding them would run the readers
  revert h
  unfold readVerdict
  split
  next passed failed hpf =>
  intro h
  simp only [Bool.and_eq_true, beq_iff_eq, Bool.not_eq_eq_eq_not, Bool.not_true,
    List.isEmpty_iff] at h
  obtain ⟨⟨⟨h0, ht⟩, ho⟩, hf⟩ := h
  refine ⟨h0, ht, ho, hf, ?_⟩
  rintro rfl
  simp only [Prod.mk.injEq] at hpf
  obtain ⟨rfl, hf'⟩ := hpf
  subst hf
  simp [hf', h0]

/-- **A passing verdict.**  A judging that passes ran the container to the end over a workspace
inside its directory: the run exited with 0, in time, within the output limit, and no test failed.
For Python every test the suite defines passed; for the other languages the passed tests are
only those the run reported. -/
theorem judge_success {run : ProcessRunner σ} {v : Verdict}
    (h : judge settings run mkdtemp lang files suite w = (.ok v, w')) (hs : v.success = true) :
    v.failed = [] ∧ v.exitCode = some 0 ∧ v.timedOut = false ∧
    (∃ t p, t.Inside ∧
      run (settings.dockerCommand :: dockerArgs lang (mkdtemp w).1) t settings.judgeTimeoutSeconds
        (mkdtemp w).2 = (.ok p, w') ∧ p.exitCode = 0 ∧ p.outputOverflow = false) ∧
    (lang = .python → v.passed = pytestNames suite) := by
  rcases judge_ok h with ⟨m, rfl, -⟩ | ⟨t, p, ht, -, -, hrun, rfl⟩
  · simp [Verdict.refused] at hs
  · obtain ⟨h0, ht0, ho, hf, hpy⟩ := readVerdict_success hs
    exact ⟨hf, by rw [readVerdict_exitCode, h0], by rw [readVerdict_timedOut, ht0],
      ⟨t, p, ht, hrun, h0, ho⟩, hpy⟩

/-! ## Every judging -/

/-- **What judging any files comes to.**  A verdict: refused, for a name the writer refuses or
a file named as the test file is, as written; or read from a run over a workspace inside the
directory made for it, where the suite stands at the place the test file's name resolves to, so
that a file whose name only resolves there is written over.  Or a failure: the file system
refusing a write, a name or a text refused as the suite is written, all before anything ran;
the container tool failing itself; or the runner failing. -/
theorem judge_outcome (run : ProcessRunner σ) :
    (∀ v w', judge settings run mkdtemp lang files suite w = (.ok v, w') →
      (∃ m, v = Verdict.refused m ∧ w' = (mkdtemp w).2) ∨
      ∃ t p, t.Inside ∧ (files.any fun f => f.1 == testFileOf lang files suite) = false ∧
        (∀ parts, placeOf (testFileOf lang files suite) = .ok parts →
          t.node? parts = some (.file suite)) ∧
        run (settings.dockerCommand :: dockerArgs lang (mkdtemp w).1) t
          settings.judgeTimeoutSeconds (mkdtemp w).2 = (.ok p, w') ∧
        v = readVerdict lang suite p) ∧
    (∀ f w', judge settings run mkdtemp lang files suite w = (.error f, w') →
      (w' = (mkdtemp w).2 ∧
        ((∃ cls m, f = .system cls m) ∨ (∃ m, f = .badValue m) ∨ ∃ m, f = .unencodable m)) ∨
      (∃ m, f = .sandbox ("docker failed: " ++ m)) ∨
      ∃ t, t.Inside ∧
        run (settings.dockerCommand :: dockerArgs lang (mkdtemp w).1) t
          settings.judgeTimeoutSeconds (mkdtemp w).2 = (.error f, w')) :=
  ⟨fun _ _ h => judge_ok h, fun _ _ h => judge_error h⟩

end Judge

end PracticeForge
