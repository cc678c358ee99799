import PracticeForge.Proofs.Activity.Persist
import PracticeForge.Api.Site

/-!
# Proofs/Store/Database — what saving leaves in the database

The database is kept in memory, with failures scripted per table and action.  A query that
fails leaves every table's rows as they were; one that is answered changes only its own table
(`Tables.run_rows`); and a failure fires only where one was scripted, spending it
(`Tables.live_of_fire`, `Tables.live_before_run`).

Creating an activity in the database is two writes: the activity's row, then the thread's, and
when the thread's fails the activity's row is deleted again.  So it either writes both rows
(`Tables.Committed`), or fails leaving every table but `activities` as it was, and the
activities as they were too unless the delete that takes the new row back fails in turn, which
only a failure scripted for deleting from `activities` can make happen (`Tables.SaveFailed`,
`Api.Site.commitGeneration_outcome`), and one does (`Api.Site.commitGeneration_orphans`).
Saving a finished run, which reads the thread and checks it before that one write, comes to the
same (`Api.Site.persistActivity_database`): a failed save leaves no row of the new activity
unless that delete failed, and then leaves exactly one.
-/

namespace PracticeForge

namespace Tables

/-! ## The rows of a table -/

/-- Setting a table's rows: the table set reads back as set, every other as before. -/
theorem rows_setRows (db : Tables) (t : String) (rs : List Row) (t' : String) :
    (db.setRows t rs).rows t' = if t' = t then rs else db.rows t' := by
  unfold setRows rows
  split
  case isTrue hany =>
    -- the table is there: its entry is replaced, the others kept, each under its own name
    have hfst : ∀ e : String × List Row, (if e.1 == t then (t, rs) else e).1 = e.1 := by
      intro e
      split
      case isTrue h => exact (beq_iff_eq.1 h).symm
      case isFalse => rfl
    simp only [List.find?_map, Function.comp_def, hfst]
    cases hf : db.tables.find? (·.1 == t') with
    | none =>
      have hne : t' ≠ t := by
        rintro rfl
        obtain ⟨e, hmem, heq⟩ := List.any_eq_true.1 hany
        exact absurd heq (by simpa using List.find?_eq_none.1 hf e hmem)
      simp [hne]
    | some e =>
      have he : e.1 = t' := by simpa using List.find?_some hf
      by_cases ht : t' = t
      · simp [ht, he]
      · have het : e.1 ≠ t := by rwa [he]
        simp [ht, het]
  case isFalse hany =>
    -- the table is new: it comes last, after every table there
    rw [List.find?_append]
    cases hf : db.tables.find? (·.1 == t') with
    | none =>
      by_cases ht : t' = t
      · simp [ht]
      · simp [ht, Ne.symm ht]
    | some e =>
      have he : e.1 = t' := by simpa using List.find?_some hf
      have hne : t' ≠ t := by
        rintro rfl
        exact hany (List.any_eq_true.2 ⟨e, List.mem_of_find?_eq_some hf, by simp [he]⟩)
      simp [hne]

@[simp] theorem rows_log (w : Tables) (l : List String) (t : String) :
    ({ w with log := l } : Tables).rows t = w.rows t := rfl

@[simp] theorem rules_setRows (w : Tables) (t : String) (rs : List Row) :
    (w.setRows t rs).rules = w.rules := by
  unfold setRows
  split <;> rfl

theorem rows_setRows_self (w : Tables) (t t' : String) :
    (w.setRows t (w.rows t)).rows t' = w.rows t' := by
  rw [rows_setRows]
  split
  case isTrue h => rw [h]
  case isFalse => rfl

@[simp] theorem rowId_activity (a : Activity) :
    (rowId (rowOf a.toJson)).bind Json.getStr? = some a.id := by
  simp [rowId, rowOf, Activity.toJson, Json.lookup, Json.getStr?]

theorem hasId_activity (a : Activity) : hasId a.id (rowOf a.toJson) = true := by
  simp [hasId]

end Tables

/-! ## One query -/

/-- What an answered query leaves in its table. -/
def Query.written : Query → List Row → List Row
  | .select .., rs => rs
  | .insert _ row, rs => rs ++ [row]
  | .upsert _ row, rs => Tables.upsertRow row rs
  | .update _ columns id, rs => rs.map fun r =>
      if Tables.hasId id r then columns.foldl (fun acc (k, v) => Json.setEntry acc k v) r else r
  | .delete _ id, rs => rs.filter fun r => !Tables.hasId id r

namespace Tables

/-- **A query, in the tables.**  A query that fails leaves every table's rows as they were; one
that is answered changes only its own table, as `Query.written` says.  The scripted failures
are as before, or one of them was spent on this query, which then failed. -/
theorem run_rows (q : Query) (w : Tables) :
    (((Tables.run q).run' w).1.isOk = false ∧ ∀ t, ((Tables.run q).run' w).2.rows t = w.rows t) ∨
    (((Tables.run q).run' w).1.isOk = true ∧ ∀ t, ((Tables.run q).run' w).2.rows t =
      if t = q.table then q.written (w.rows q.table) else w.rows t) := by
  unfold Tables.run
  simp only [Effect.run'_bind, Effect.run'_get, Effect.run'_set]
  split
  case h_1 rules hf =>
    left
    simp only [Effect.run'_bind, Effect.run'_set, Effect.run'_throw]
    exact ⟨rfl, fun t => rows_setRows_self _ _ _⟩
  case h_2 hf =>
    -- no failure fires: the query reads or writes its own table of the logged tables
    cases q with
    | select table id column limit single =>
      right
      simp only [Query.written, Query.table]
      split
      all_goals
        simp only [Effect.run'_pure, rows_setRows, rows_log]
        exact ⟨rfl, fun t => rfl⟩
    | insert table row =>
      simp only [Query.written, Query.table, rows_setRows, rows_log, ↓reduceIte]
      -- a row whose id is taken is refused
      by_cases hdup : ((w.rows table).any fun r =>
          (rowId r).isSome && (rowId r).bind Json.getStr? == (rowId row).bind Json.getStr?) = true
      · left
        simp only [hdup, ↓reduceIte, Effect.run'_bind, Effect.run'_throw, rows_setRows, rows_log]
        refine ⟨rfl, fun t => ?_⟩
        split
        case isTrue h => rw [h]
        case isFalse => rfl
      · right
        simp only [hdup, Bool.false_eq_true, ↓reduceIte, Effect.run'_bind, Effect.run'_pure,
          Effect.run'_set, rows_setRows, rows_log]
        exact ⟨rfl, fun t => by by_cases h : t = table <;> simp [h]⟩
    | upsert table _ | update table _ _ | delete table _ =>
      right
      simp only [Query.written, Query.table, Effect.run'_bind, Effect.run'_set, Effect.run'_pure,
        rows_setRows, rows_log]
      exact ⟨rfl, fun t => by by_cases h : t = table <;> simp [h]⟩


/-! ## Scripted failures -/

/-- Whether a failure of the `action` queries on `table` is still scripted. -/
def Live (rules : List FailRule) (table action : String) : Prop :=
  ∃ r ∈ rules, r.table = table ∧ r.action = action ∧ 0 < r.times

/-- A failure fires only for a query it was scripted for. -/
theorem live_of_fire {rules rules' : List FailRule} {q : Query} (h : fire rules q = some rules') :
    Live rules q.table q.action := by
  induction rules generalizing rules' with
  | nil => simp [fire] at h
  | cons r rest ih =>
    rw [fire] at h
    split at h
    case isTrue hr => exact ⟨r, List.mem_cons_self, by simpa [and_assoc] using hr⟩
    case isFalse =>
      obtain ⟨rs, hrs, -⟩ := Option.map_eq_some_iff.1 h
      obtain ⟨r', hr', hl⟩ := ih hrs
      exact ⟨r', List.mem_cons_of_mem _ hr', hl⟩

/-- Firing spends a failure and scripts none: what is scripted after was scripted before. -/
theorem live_before_fire {rules rules' : List FailRule} {q : Query} (h : fire rules q = some rules')
    {table action : String} (hl : Live rules' table action) : Live rules table action := by
  induction rules generalizing rules' with
  | nil => simp [fire] at h
  | cons r rest ih =>
    rw [fire] at h
    obtain ⟨r', hr', hl⟩ := hl
    split at h
    case isTrue =>
      cases h
      rcases List.mem_cons.1 hr' with rfl | hr'
      · exact ⟨r, List.mem_cons_self, hl.1, hl.2.1, lt_of_lt_of_le hl.2.2 (Nat.sub_le _ _)⟩
      · exact ⟨r', List.mem_cons_of_mem _ hr', hl⟩
    case isFalse =>
      obtain ⟨rs, hrs, rfl⟩ := Option.map_eq_some_iff.1 h
      rcases List.mem_cons.1 hr' with rfl | hr'
      · exact ⟨r', List.mem_cons_self, hl⟩
      · obtain ⟨r'', hr'', hl'⟩ := ih hrs ⟨r', hr', hl⟩
        exact ⟨r'', List.mem_cons_of_mem _ hr'', hl'⟩

/-- A query leaves the scripted failures as they were, or spends one scripted for it. -/
theorem run_rules (q : Query) (w : Tables) :
    ((Tables.run q).run' w).2.rules = w.rules ∨
      fire w.rules q = some ((Tables.run q).run' w).2.rules := by
  unfold Tables.run
  simp only [Effect.run'_bind, Effect.run'_get, Effect.run'_set, rules_setRows]
  split
  case h_1 rules hf =>
    right
    simp only [Effect.run'_bind, Effect.run'_set, Effect.run'_throw]
    simpa using hf
  case h_2 =>
    left
    cases q with
    | select =>
      simp only
      split <;> simp only [Effect.run'_pure, rules_setRows]
    | insert table row =>
      simp only
      split <;> simp only [Effect.run'_bind, Effect.run'_set, Effect.run'_pure, Effect.run'_throw,
        rules_setRows]
    | upsert | update | delete =>
      simp only [Effect.run'_bind, Effect.run'_set, Effect.run'_pure, rules_setRows]

/-- What is scripted after a query was scripted before it. -/
theorem live_before_run {q : Query} {w : Tables} {table action : String}
    (hl : Live ((Tables.run q).run' w).2.rules table action) : Live w.rules table action := by
  rcases run_rules q w with h | h
  · rwa [h] at hl
  · exact live_before_fire h hl


/-- A failed query left every table's rows as they were. -/
theorem rows_of_run_error {q : Query} {w w' : Tables} {e : Failure}
    (h : (Tables.run q).run' w = (.error e, w')) (t : String) : w'.rows t = w.rows t := by
  rcases run_rows q w with ⟨-, hr⟩ | ⟨hok, -⟩
  · rw [h] at hr
    exact hr t
  · rw [h] at hok
    cases hok

/-- An answered query changed only its own table, as `Query.written` says. -/
theorem rows_of_run_ok {q : Query} {w w' : Tables} {v : Option (List Row)}
    (h : (Tables.run q).run' w = (.ok v, w')) (t : String) :
    w'.rows t = if t = q.table then q.written (w.rows q.table) else w.rows t := by
  rcases run_rows q w with ⟨hok, -⟩ | ⟨-, hr⟩
  · rw [h] at hok
    cases hok
  · rw [h] at hr
    exact hr t

/-- A query other than an insert fails only on a failure scripted for it. -/
theorem live_of_run_error {q : Query} {w w' : Tables} {e : Failure}
    (hq : ∀ t row, q ≠ .insert t row) (h : (Tables.run q).run' w = (.error e, w')) :
    Live w.rules q.table q.action := by
  unfold Tables.run at h
  simp only [Effect.run'_bind, Effect.run'_get, Effect.run'_set, rules_setRows] at h
  split at h
  case h_1 rules hf => exact live_of_fire (by simpa using hf)
  case h_2 =>
    cases q with
    | select =>
      simp only at h
      split at h <;> simp only [Effect.run'_pure, reduceCtorEq, Prod.mk.injEq, false_and] at h
    | insert t row => exact absurd rfl (hq t row)
    | upsert | update | delete =>
      simp only [Effect.run'_bind, Effect.run'_set, Effect.run'_pure, reduceCtorEq, Prod.mk.injEq,
        false_and] at h

/-- An insert that succeeds found no row with its row's id in its table. -/
theorem fresh_of_insert_ok {t : String} {row : Row} {w w' : Tables} {v : Option (List Row)}
    (h : (Tables.run (.insert t row)).run' w = (.ok v, w')) {id : String}
    (hid : (rowId row).bind Json.getStr? = some id) : ∀ r ∈ w.rows t, hasId id r = false := by
  unfold Tables.run at h
  simp only [Effect.run'_bind, Effect.run'_get, Effect.run'_set, rules_setRows] at h
  split at h
  case h_1 =>
    simp only [Effect.run'_bind, Effect.run'_set, Effect.run'_throw, reduceCtorEq, Prod.mk.injEq,
      false_and] at h
  case h_2 =>
    simp only [Query.table, rows_setRows, rows_log, ↓reduceIte] at h
    split at h
    case isTrue => simp at h
    case isFalse hdup =>
      intro r hr
      -- a row with the id would have made the insert a duplicate
      by_contra hne
      have hr' : (rowId r).bind Json.getStr? = some id := by simpa [hasId] using hne
      have hsome : (rowId r).isSome := by
        cases hrid : rowId r with
        | none => simp [hrid] at hr'
        | some _ => rfl
      exact hdup (List.any_eq_true.2 ⟨r, hr, by simp [hsome, hr', hid]⟩)

/-- A select for one row by id gives the first row of the table with that id. -/
theorem find?_of_select_one {t i : String} {w w' : Tables} {v : Option (List Row)} {r : Row}
    (h : (Tables.run (.select t (some i) none none true)).run' w = (.ok v, w'))
    (hr : Storage.firstRow v = some r) : (w.rows t).find? (hasId i) = some r := by
  unfold Tables.run at h
  simp only [Effect.run'_bind, Effect.run'_get, Effect.run'_set, rules_setRows] at h
  split at h
  case h_1 =>
    simp only [Effect.run'_bind, Effect.run'_set, Effect.run'_throw, reduceCtorEq, Prod.mk.injEq,
      false_and] at h
  case h_2 =>
    simp only [Query.table, rows_setRows, rows_log, ↓reduceIte, Effect.run'_pure, Prod.mk.injEq,
      Except.ok.injEq] at h
    obtain ⟨rfl, -⟩ := h
    -- the answer is the head of the rows with the id
    rw [← List.head?_filter]
    cases hf : (w.rows t).filter (hasId i) with
    | nil => simp [hf, Storage.firstRow] at hr
    | cons r' rest =>
      simp only [hf, List.head?_cons, Option.map_some, Storage.firstRow] at hr ⊢
      split at hr
      case isTrue => cases hr
      case isFalse => rw [Option.some.inj hr]

/-- A select for one row by id gives a row of the table with that id. -/
theorem mem_of_select_one {t i : String} {w w' : Tables} {v : Option (List Row)} {r : Row}
    (h : (Tables.run (.select t (some i) none none true)).run' w = (.ok v, w'))
    (hr : Storage.firstRow v = some r) : r ∈ w.rows t ∧ hasId i r = true := by
  have hf := find?_of_select_one h hr
  exact ⟨List.mem_of_find?_eq_some hf, List.find?_some hf⟩

/-! ## Reads, and what a save may leave -/

/-- The tables `w'` hold the rows of `w` and script no failure that `w` did not: what reading
leaves. -/
structure Unwritten (w w' : Tables) : Prop where
  rows : ∀ t, w'.rows t = w.rows t
  live : ∀ {table action : String}, Live w'.rules table action → Live w.rules table action

theorem Unwritten.refl (w : Tables) : Unwritten w w := ⟨fun _ => rfl, id⟩

theorem Unwritten.trans {w₁ w₂ w₃ : Tables} (h₁ : Unwritten w₁ w₂) (h₂ : Unwritten w₂ w₃) :
    Unwritten w₁ w₃ :=
  ⟨fun t => (h₂.rows t).trans (h₁.rows t), fun hl => h₁.live (h₂.live hl)⟩

theorem unwritten_of_run_error {q : Query} {w w' : Tables} {e : Failure}
    (h : (Tables.run q).run' w = (.error e, w')) : Unwritten w w' :=
  ⟨rows_of_run_error h, fun hl => live_before_run (q := q) (by rw [h]; exact hl)⟩

/-- A select, answered or not, writes no rows. -/
theorem unwritten_of_select (t : String) (id column : Option String) (limit : Option Int)
    (single : Bool) (w : Tables) :
    Unwritten w ((Tables.run (.select t id column limit single)).run' w).2 := by
  refine ⟨fun t' => ?_, live_before_run⟩
  rcases run_rows (.select t id column limit single) w with ⟨-, h⟩ | ⟨-, h⟩
  · exact h t'
  · rw [h t']
    split
    case isTrue ht => rw [ht]; rfl
    case isFalse => rfl

/-- What a failed save may leave: every table but `activities` as it was, and the activities
as they were or, when a failure of deleting from `activities` was scripted, with the row of one
activity more. -/
def SaveFailed (w w' : Tables) : Prop :=
  (∀ t, t ≠ "activities" → w'.rows t = w.rows t) ∧
  (w'.rows "activities" = w.rows "activities" ∨
    Live w.rules "activities" "delete" ∧
      ∃ a : Activity, w'.rows "activities" = w.rows "activities" ++ [rowOf a.toJson])

theorem SaveFailed.of_unwritten {w w' : Tables} (h : Unwritten w w') : SaveFailed w w' :=
  ⟨fun t _ => h.rows t, .inl (h.rows _)⟩

theorem SaveFailed.after {w w₀ w' : Tables} (h₀ : Unwritten w w₀) (h : SaveFailed w₀ w') :
    SaveFailed w w' := by
  obtain ⟨hother, hact⟩ := h
  refine ⟨fun t ht => (hother t ht).trans (h₀.rows t), ?_⟩
  rcases hact with hsame | ⟨hl, a, hrows⟩
  · exact .inl (hsame.trans (h₀.rows _))
  · exact .inr ⟨h₀.live hl, a, by rw [hrows, h₀.rows]⟩


/-- What creating the activity `a` with the thread `t` writes from the tables `w` to `w'`: the
row of the activity, with at most its creation time set, after the rows there, none of which
has its id; the row of the thread, stamped, in place of the row with its id; nothing else. -/
def Committed (a : Activity) (t : Thread) (w w' : Tables) : Prop :=
  (∀ tbl, tbl ≠ "activities" → tbl ≠ "threads" → w'.rows tbl = w.rows tbl) ∧
  (∀ r ∈ w.rows "activities", hasId a.id r = false) ∧
  (∃ a' : Activity, { a' with createdAt := a.createdAt } = a ∧
    w'.rows "activities" = w.rows "activities" ++ [rowOf a'.toJson]) ∧
  ∃ now, w'.rows "threads" = upsertRow (rowOf (t.stamp now).toJson) (w.rows "threads")

theorem Committed.after {a : Activity} {t : Thread} {w w₀ w' : Tables} (h₀ : Unwritten w w₀)
    (h : Committed a t w₀ w') : Committed a t w w' := by
  obtain ⟨hother, hfresh, ⟨a', ha', hact⟩, now, hthr⟩ := h
  refine ⟨fun tbl h₁ h₂ => by rw [hother tbl h₁ h₂, h₀.rows], ?_, ⟨a', ha', ?_⟩, now, ?_⟩
  · rw [← h₀.rows]
    exact hfresh
  · rw [hact, h₀.rows]
  · rw [hthr, h₀.rows]

end Tables

/-! ## The database storage of a site -/

namespace Api.Site

open Tables

theorem database_run' (q : Query) (w : Site) :
    (database q).run' w =
      (((Tables.run q).run' w.tables).1, { w with tables := ((Tables.run q).run' w.tables).2 }) :=
  rfl

@[simp] theorem now_run' (w : Site) :
    now.run' w = (.ok (Clock.reading (w.clock + 1)), { w with clock := w.clock + 1 }) := rfl

/-- **Creating an activity in the database**: both rows written, or a failure that leaves what
`SaveFailed` allows. -/
theorem commitGeneration_outcome (a : Activity) (t : Thread) (w : Site) :
    match ((Storage.ofDatabase database now).commitGeneration a t).run' w with
    | (.ok _, w') => Committed a t w.tables w'.tables
    | (.error _, w') => SaveFailed w.tables w'.tables := by
  simp only [Storage.ofDatabase, Effect.run'_bind, now_run', database_run']
  -- the activity as stored: at most its creation time set
  obtain ⟨a', ha', hsame⟩ : ∃ a' : Activity, (if a.createdAt == "" then
      { a with createdAt := Clock.reading (w.clock + 1) } else a) = a' ∧
      { a' with createdAt := a.createdAt } = a := ⟨_, rfl, by split <;> rfl⟩
  have hid : a'.id = a.id := by rw [← hsame]
  rw [ha']
  rcases hi : (run (.insert "activities" (rowOf a'.toJson))).run' w.tables with ⟨_ | _, T₁⟩
  · -- the insert is refused: nothing is written
    exact SaveFailed.of_unwritten (unwritten_of_run_error hi)
  · dsimp only
    rw [Effect.run'_tryCatch]
    simp only [Storage.saveThreadRow, Effect.run'_bind, now_run', database_run', Effect.run'_pure]
    -- after the insert: the activity's row last among the activities, and no other row with its id
    have hT₁ : ∀ tbl, T₁.rows tbl =
        if tbl = "activities" then w.tables.rows "activities" ++ [rowOf a'.toJson]
        else w.tables.rows tbl := fun tbl => by
      rw [rows_of_run_ok hi tbl]
      rfl
    have hfresh : ∀ r ∈ w.tables.rows "activities", hasId a.id r = false := by
      rw [← hid]
      exact fresh_of_insert_ok hi (rowId_activity a')
    generalize Clock.reading (w.clock + 1 + 1) = c
    rcases hu : (run (.upsert "threads" (rowOf (t.stamp c).toJson))).run' T₁ with ⟨_ | _, T₂⟩
    · -- the thread is not saved: the activity's row is deleted again
      dsimp only
      have hT₂ := rows_of_run_error hu
      rcases hd : (run (.delete "activities" a'.id)).run' T₂ with ⟨_ | _, T₃⟩
      · -- the delete fails as well, as scripted: the activity's row stays
        have hT₃ := rows_of_run_error hd
        have hlive : Live w.tables.rules "activities" "delete" :=
          live_before_run (q := .insert "activities" (rowOf a'.toJson)) (by
            rw [hi]
            exact (unwritten_of_run_error hu).live (live_of_run_error (by simp) hd))
        refine ⟨fun tbl htbl => by simp [hT₃, hT₂, hT₁, htbl], .inr ⟨hlive, a', ?_⟩⟩
        simp [hT₃, hT₂, hT₁]
      · dsimp only
        simp only [Effect.run'_throw]
        have hT₃ := rows_of_run_ok hd
        refine ⟨fun tbl htbl => by simp [hT₃, hT₂, hT₁, htbl, Query.table], .inl ?_⟩
        simp only [hT₃, hT₂, hT₁, Query.table, Query.written, if_true, List.filter_append]
        -- the old rows lack the new id, so the delete takes exactly the new row
        rw [hid, List.filter_eq_self.2 (fun r hr => by simp [hfresh r hr]), ← hid]
        simp [hasId_activity]
    · -- both rows written
      dsimp only
      have hT₂ := rows_of_run_ok hu
      refine ⟨fun tbl h₁ h₂ => by simp [hT₂, hT₁, h₁, h₂, Query.table], hfresh, ⟨a', hsame, ?_⟩,
        c, ?_⟩
      · simp [hT₂, hT₁, Query.table]
      · simp [hT₂, hT₁, Query.table, Query.written]

/-- The second way a creation can fail is there: with failures scripted for saving the thread
and for deleting from `activities`, creating an activity fails and leaves its row behind. -/
theorem commitGeneration_orphans :
    ∃ e w', ((Storage.ofDatabase database now).commitGeneration
        ⟨"a1", some "t1", "", "", [], .draft, none, ""⟩ (Thread.fresh "t1" .practice)).run'
      (start Settings.defaults false
        ⟨[], [⟨"threads", "upsert", 1⟩, ⟨"activities", "delete", 1⟩], []⟩ ⟨"", []⟩) =
        (.error e, w') ∧
      w'.tables.rows "activities" =
        [rowOf (⟨"a1", some "t1", "", "", [], .draft, none, Clock.reading 1⟩ : Activity).toJson] :=
  ⟨_, _, rfl, rfl⟩

theorem commitGeneration_ok {a : Activity} {t : Thread} {w w' : Site} {u : Unit}
    (h : ((Storage.ofDatabase database now).commitGeneration a t).run' w = (.ok u, w')) :
    Committed a t w.tables w'.tables := by
  have hc := commitGeneration_outcome a t w
  rw [h] at hc
  exact hc

theorem commitGeneration_error {a : Activity} {t : Thread} {w w' : Site} {e : Failure}
    (h : ((Storage.ofDatabase database now).commitGeneration a t).run' w = (.error e, w')) :
    SaveFailed w.tables w'.tables := by
  have hc := commitGeneration_outcome a t w
  rw [h] at hc
  exact hc

/-- Reading a thread from the database writes nothing, and a thread it gives is the record of a
row of `threads` with the thread's id. -/
theorem getThread_outcome (id : String) (w : Site) :
    match ((Storage.ofDatabase database now).getThread id).run' w with
    | (.ok (some t), w') => Unwritten w.tables w'.tables ∧
        ∃ r ∈ w.tables.rows "threads", hasId id r = true ∧ Thread.check (.obj r) = .ok t
    | (_, w') => Unwritten w.tables w'.tables := by
  simp only [Storage.ofDatabase, Effect.run'_bind, database_run']
  have hsel := unwritten_of_select "threads" (some id) none none true w.tables
  rcases hs : (Tables.run (.select "threads" (some id) none none true)).run' w.tables with
    ⟨_ | v, T⟩
  · rw [hs] at hsel
    exact hsel
  · rw [hs] at hsel
    dsimp only
    cases hf : Storage.firstRow v with
    | none => exact hsel
    | some r =>
      simp only [Storage.readRow, Effect.run'_bind, Effect.run'_ofExcept, Effect.run'_pure]
      cases hc : Thread.check (.obj r) with
      | error e => exact hsel
      | ok t =>
        obtain ⟨hr, hid⟩ := mem_of_select_one hs hf
        exact ⟨hsel, r, hr, hid, hc⟩


theorem storage_of_usesDatabase {st : Settings} (hdb : usesDatabase st = true) :
    (service st).storage = Storage.ofDatabase database now := by
  simp [service, storage, hdb]

@[simp] theorem mintId_run' (st : Settings) (w : Site) :
    (service st).mintId.run' w = (.ok (idText (w.ids + 1)), { w with ids := w.ids + 1 }) := rfl

/-- **Saving a finished run in the database.**  A save that succeeds read the thread from its
row, GENERATING, and wrote one activity under the new id, for the thread, with its opening
message as prompt and the slots' problems in slot order, and the thread SAVED with that id;
one that fails leaves the threads as they were and the activities too, but for the row of the
activity when the delete that should take it back fails in turn. -/
theorem persistActivity_database {st : Settings} (hdb : usesDatabase st = true) (tid : String)
    (states : List SlotState) (w : Site) :
    match ((service st).storage.persistActivity (service st).mintId tid states).run' w with
    | (.ok aid, w') => ∃ r t a, r ∈ w.tables.rows "threads" ∧ hasId tid r = true ∧
        Thread.check (.obj r) = .ok t ∧ t.state = .generating ∧
        a.id = aid ∧ a.threadId = some t.id ∧ a.prompt = t.opening ∧
        a.problems = inSlotOrder states ∧
        Committed a { t with state := .saved, activityId := some aid, lastError := none }
          w.tables w'.tables
    | (.error _, w') => SaveFailed w.tables w'.tables := by
  rw [storage_of_usesDatabase hdb]
  unfold Storage.persistActivity
  dsimp only
  -- the checks before any write: slots, their stages, the thread
  by_cases hempty : states.isEmpty = true
  · rw [if_pos hempty, Effect.run'_bind, Effect.run'_throw]
    exact SaveFailed.of_unwritten (Unwritten.refl _)
  rw [if_neg hempty]
  by_cases hdone : (!(states.filter fun s => s.stage != .done || s.problem.isNone).isEmpty) = true
  · rw [if_pos hdone, Effect.run'_bind, Effect.run'_throw]
    exact SaveFailed.of_unwritten (Unwritten.refl _)
  rw [if_neg hdone, Effect.run'_bind]
  have hg := getThread_outcome tid w
  rcases hgr : ((Storage.ofDatabase database now).getThread tid).run' w with ⟨_ | _ | t, w₁⟩
  · rw [hgr] at hg
    exact SaveFailed.of_unwritten hg
  · rw [hgr] at hg
    simp only [Effect.run'_bind, Effect.run'_throw]
    exact SaveFailed.of_unwritten hg
  · rw [hgr] at hg
    obtain ⟨hun, r, hr, hid, hchk⟩ := hg
    simp only [Effect.run'_bind, Effect.run'_pure, mintId_run', Effect.run'_ofExcept]
    cases htr : t.transitionTo .saved with
    | error e => exact SaveFailed.of_unwritten hun
    | ok t' =>
      obtain ⟨hgen, rfl⟩ := Thread.transitionTo_saved htr
      dsimp only
      -- the one write
      rcases hcr : Effect.run' ((Storage.ofDatabase database now).commitGeneration _ _) _ with
        ⟨_ | _, w₂⟩
      · have hc := commitGeneration_error hcr
        exact SaveFailed.after hun hc
      · have hc := commitGeneration_ok hcr
        dsimp only
        refine ⟨r, t, _, hr, hid, hchk, hgen, ?_, ?_, ?_, ?_, Committed.after hun hc⟩
        · rfl
        · rfl
        · rfl
        · rfl
end Api.Site

end PracticeForge
