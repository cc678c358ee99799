import PracticeForge.Proofs.Basic
import PracticeForge.Proofs.Store.Database
import PracticeForge.Activity.Edit

/-!
# Proofs/Activity/Interleaving — editing and publishing one activity from requests side by side

Editing an activity and publishing it each take two calls of the storage with nothing held
between them: the request reads the activity, decides on a copy, and writes the copy back
(`Storage.serve`, which is `patchActivity` and `publishActivity` read as one shape).  Requests
served side by side interleave those calls.  `Storage.Move` is one call of one request, over the
storage's world and where each request has got to (`Storage.Stage`): a request not yet begun
reads, a request holding its copy writes it.

What a storage does with the activity is summed up by `Storage.Shows`: a read changes nothing
that is shown of it and gives what is shown, and a write leaves what is shown or shows the copy
written.  The in-memory storage behaves so (`Memory.storage_shows`), and so does the database
storage, which writes only the title, status and time limit of the rows with the copy's id
(`Api.Site.storage_shows`).

Main statements:
* `Storage.patch_across_publish` — a patch that read the draft before a publish wrote, and
  writes after it, puts the published activity back to a draft with the patched title.
* `Storage.Settled.served` — once the activity is shown published and every copy still to be
  written agrees with it, every interleaving keeps it published with its title and time limit.
* `Storage.published_stays` — that, and publishing a published activity only reads it.
-/

namespace PracticeForge

/-- What editing and publishing change of an activity: its status, its title and its time
limit. -/
def Activity.editable (a : Activity) : ActivityStatus × String × Option Int :=
  (a.status, a.title, a.timeLimitSeconds)

/-- The activity with a patch's changes: the title unless it is blank, trimmed and cut to
`maxTitleLength` characters, and the time limit when one is given, clamped. -/
def Activity.patched (a : Activity) (title : Option String) (limit : Option (Option Int)) :
    Activity :=
  let a := match title with
    | some t =>
      if (Text.trim t).isEmpty then a else { a with title := Text.take (Text.trim t) maxTitleLength }
    | none => a
  match limit with
  | some l => { a with timeLimitSeconds := l.map clampTimeLimit }
  | none => a

namespace Storage

/-! ## A request as a read, a decision and a write -/

/-- A request on an activity. -/
inductive Request where
  | patch (title : Option String) (limit : Option (Option Int))
  | publish

/-- What a request makes of the activity it read: a refusal, an answer with the activity as it
was read, or a copy to write. -/
inductive Decision where
  | refuse (f : Failure)
  | answer
  | write (a : Activity)

/-- The decision of a request on the activity it read: a patch refuses a published activity and
writes the patched copy of a draft; a publish answers a published activity as it is and writes
a published copy of a draft. -/
def Request.decide : Request → Activity → Decision
  | .patch title limit, a =>
    if a.status != .draft then .refuse (.activityLocked "Published activities cannot be edited.")
    else .write (a.patched title limit)
  | .publish, a => if a.status == .published then .answer else .write { a with status := .published }

variable {σ : Type} (st : Storage σ)

/-- A request served alone: read the activity, decide, write the copy. -/
def serve (id : String) (r : Request) : Effect σ Activity := do
  let a ← st.activity id
  match r.decide a with
  | .refuse f => throw f
  | .answer => pure a
  | .write a' => st.updateActivity a'

theorem serve_patch (id : String) (title : Option String) (limit : Option (Option Int)) :
    st.serve id (.patch title limit) = st.patchActivity id title limit := by
  unfold serve patchActivity
  congr 1
  funext a
  by_cases hd : (a.status != .draft) = true
  · simp only [Request.decide, hd, if_true]
    rfl
  · simp only [Request.decide, hd, Bool.false_eq_true, if_false]
    rfl

theorem serve_publish (id : String) : st.serve id .publish = st.publishActivity id := by
  unfold serve publishActivity
  congr 1
  funext a
  by_cases hp : (a.status == .published) = true
  · simp only [Request.decide, hp, if_true]
  · simp only [Request.decide, hp, Bool.false_eq_true, if_false]

/-! ## Requests side by side -/

/-- Where a request served alongside others has got to. -/
inductive Stage where
  /-- It has not read the activity yet. -/
  | waiting (r : Request)
  /-- It read the activity and holds the copy it will write. -/
  | holding (a : Activity)
  /-- It has its answer. -/
  | answered (res : Except Failure Activity)

/-- Where a request is after its read gave `res`. -/
def Request.afterRead (r : Request) : Except Failure Activity → Stage
  | .error f => .answered (.error f)
  | .ok a =>
    match r.decide a with
    | .refuse f => .answered (.error f)
    | .answer => .answered (.ok a)
    | .write a' => .holding a'

/-- One call of the storage by one of the requests on the activity `id` served side by side: a
request not yet begun reads, a request holding a copy writes it. -/
inductive Move (id : String) : σ × List Stage → σ × List Stage → Prop
  | read {w w' : σ} {res : Except Failure Activity} (pre post : List Stage) (r : Request) :
      (st.activity id).run' w = (res, w') →
      Move id (w, pre ++ .waiting r :: post) (w', pre ++ r.afterRead res :: post)
  | write {w w' : σ} {res : Except Failure Activity} (pre post : List Stage) (a : Activity) :
      (st.updateActivity a).run' w = (res, w') →
      Move id (w, pre ++ .holding a :: post) (w', pre ++ .answered res :: post)

/-- The requests on the activity `id` served side by side, their calls interleaved in any
order. -/
def Served (id : String) : σ × List Stage → σ × List Stage → Prop :=
  Relation.ReflTransGen (st.Move id)

/-- **Published stays published**: in every interleaving of the requests `reqs`, begun together
from the world `w`, once the activity `id` is shown published it stays published, with its title
and time limit. -/
def KeepsPublished (id : String) (shown : σ → Option (ActivityStatus × String × Option Int))
    (w : σ) (reqs : List Request) : Prop :=
  ∀ s s' : σ × List Stage, st.Served id (w, reqs.map .waiting) s → st.Served id s s' →
    ∀ title limit, shown s.1 = some (.published, title, limit) →
      shown s'.1 = some (.published, title, limit)

/-! ## What a storage shows of the activity -/

/-- How a storage treats the activity `id`, as `shown` sees it: a read leaves what is shown and
gives what is shown; a write of a copy leaves what is shown or shows the copy. -/
structure Shows (id : String) (shown : σ → Option (ActivityStatus × String × Option Int)) :
    Prop where
  read_keeps : ∀ w, shown ((st.activity id).run' w).2 = shown w
  read_shown : ∀ {w w' : σ} {a : Activity}, (st.activity id).run' w = (.ok a, w') →
    shown w = some a.editable
  write_shown : ∀ (w : σ) (a : Activity), shown ((st.updateActivity a).run' w).2 = shown w ∨
    shown ((st.updateActivity a).run' w).2 = some a.editable

/-- The activity is shown published with `title` and `limit`, and every copy a request still
holds agrees with that. -/
structure Settled (shown : σ → Option (ActivityStatus × String × Option Int)) (title : String)
    (limit : Option Int) (s : σ × List Stage) : Prop where
  shown_eq : shown s.1 = some (.published, title, limit)
  held : ∀ a, Stage.holding a ∈ s.2 → a.editable = (.published, title, limit)

/-- A request that read a published activity holds nothing to write. -/
theorem afterRead_published (r : Request) {a : Activity} (ha : a.status = .published)
    (b : Activity) : r.afterRead (.ok a) ≠ .holding b := by
  cases r <;> simp [Request.afterRead, Request.decide, ha]

/-- A stage after one request moved is the moved request's new stage, or was there before. -/
theorem mem_moved {pre post : List Stage} {x y z : Stage} (h : x ∈ pre ++ y :: post) :
    x = y ∨ x ∈ pre ++ z :: post := by
  simp only [List.mem_append, List.mem_cons] at h ⊢
  tauto

variable {st} {id : String} {shown : σ → Option (ActivityStatus × String × Option Int)}

/-- **One call keeps the activity settled**: a read of the published activity leaves nothing to
write, and a write puts back what is already shown. -/
theorem Settled.move (hst : st.Shows id shown) {title : String} {limit : Option Int}
    {s s' : σ × List Stage} (hs : Settled shown title limit s) (hm : st.Move id s s') :
    Settled shown title limit s' := by
  cases hm with
  | @read w w' res pre post r hread =>
    have hkeep : shown w' = shown w := by simpa [hread] using hst.read_keeps w
    -- what the read gave is the published activity, so the request ends without a copy
    have hnone : ∀ a, r.afterRead res ≠ .holding a := by
      cases res with
      | error f => intro a h; cases h
      | ok b =>
        have hb : b.editable = (.published, title, limit) :=
          Option.some.inj ((hst.read_shown hread).symm.trans hs.shown_eq)
        exact afterRead_published r (congrArg Prod.fst hb)
    refine ⟨hkeep.trans hs.shown_eq, fun a ha => ?_⟩
    rcases mem_moved (z := .waiting r) ha with h | h
    · exact absurd h.symm (hnone a)
    · exact hs.held a h
  | @write w w' res pre post a hwrite =>
    have ha : a.editable = (.published, title, limit) := hs.held a (by simp)
    refine ⟨?_, fun b hb => ?_⟩
    · rcases hst.write_shown w a with h | h <;> rw [hwrite] at h
      · exact h.trans hs.shown_eq
      · rw [h, ha]
    · rcases mem_moved (z := .holding a) hb with h | h
      · cases h
      · exact hs.held b h

/-- **Every interleaving keeps the activity settled**, by induction on the calls made. -/
theorem Settled.served (hst : st.Shows id shown) {title : String} {limit : Option Int}
    {s s' : σ × List Stage} (hs : Settled shown title limit s) (hrun : st.Served id s s') :
    Settled shown title limit s' := by
  induction hrun with
  | refl => exact hs
  | tail _ hm ih => exact ih.move hst hm

/-- Publishing a published activity reads it and writes nothing. -/
theorem publishActivity_published {w w' : σ} {a : Activity}
    (h : (st.activity id).run' w = (.ok a, w')) (hp : a.status = .published) :
    (st.publishActivity id).run' w = (.ok a, w') := by
  rw [← serve_publish, serve, Effect.run'_bind, h]
  simp [Request.decide, hp]

/-! ## A patch across a publish -/

/-- A draft activity with nothing in it but its title. -/
def draftActivity : Activity := ⟨"a1", some "t1", "Title", "p", [], .draft, none, ""⟩

/-- A memory holding only that draft. -/
def draftMemory : Memory := ⟨ThreadStore.empty, [draftActivity], 0⟩

end Storage

/-! ## The in-memory storage -/

namespace Memory

/-- What the memory shows of the activity `id`. -/
def shownActivity (id : String) (m : Memory) : Option (ActivityStatus × String × Option Int) :=
  (m.activity? id).map Activity.editable

/-- Reading an activity from memory changes nothing, and finds it or fails naming it. -/
theorem activity_run' (id : String) (m : Memory) :
    (storage.activity id).run' m =
      ((m.activity? id).elim (.error (.activityNotFound id)) .ok, m) := by
  unfold Storage.activity
  cases h : m.activity? id <;> simp [storage, Effect.run'_bind, h]

/-- After a copy replaces the activities with its id, the activity `id` is the copy when the ids
agree and was there, and is as before otherwise. -/
theorem activity?_replace (m : Memory) (a : Activity) (id : String) :
    ({ m with activities := m.activities.map fun (b : Activity) => if b.id == a.id then a else b } :
        Memory).activity? id =
      if a.id = id then (m.activity? id).map fun _ => a else m.activity? id := by
  unfold activity?
  rw [List.find?_map]
  -- replacing keeps which activities have the id `id`
  have hkeep : ((fun b : Activity => b.id == id) ∘ fun b => if b.id == a.id then a else b) =
      fun b => b.id == id := by
    funext b
    by_cases hb : b.id = a.id <;> simp [hb]
  rw [hkeep]
  by_cases ha : a.id = id
  · rw [if_pos ha]
    apply Option.map_congr
    intro b hb
    have hbid : b.id = id := by simpa using List.find?_some hb
    simp [hbid, ha]
  · rw [if_neg ha]
    cases hf : m.activities.find? (·.id == id) with
    | none => rfl
    | some b =>
      have hbid : b.id = id := by simpa using List.find?_some hf
      have hne : b.id ≠ a.id := fun h => ha (h ▸ hbid)
      simp [hne]

/-- Writing a copy into memory: refused, changing nothing, when no activity has its id; else
the copy replaces the activities with its id. -/
theorem updateActivity_run' (a : Activity) (m : Memory) :
    (storage.updateActivity a).run' m =
      if (m.activity? a.id).isNone then
        (.error (.persistenceInvariant ("update of unknown activity " ++ a.id)), m)
      else (.ok a, { m with
        activities := m.activities.map fun (b : Activity) => if b.id == a.id then a else b }) := by
  by_cases h : m.activity? a.id = none
  · simp [storage, Effect.run'_bind, h]
  · simp [storage, Effect.run'_bind, h]
    rfl

/-- **The in-memory storage shows the activity as `Shows` says.** -/
theorem storage_shows (id : String) : storage.Shows id (shownActivity id) where
  read_keeps m := by rw [activity_run']
  read_shown {m m' a} h := by
    rw [activity_run'] at h
    cases hf : m.activity? id with
    | none => simp [hf] at h
    | some b =>
      simp only [hf, Option.elim, Prod.mk.injEq, Except.ok.injEq] at h
      simp [shownActivity, hf, h.1]
  write_shown m a := by
    rw [updateActivity_run']
    split
    case isTrue => exact .inl rfl
    case isFalse hn =>
      -- the copy shows only under its own id, where an activity was to be replaced
      simp only [shownActivity, activity?_replace]
      split
      case isTrue hid =>
        subst hid
        obtain ⟨b, hb⟩ := Option.ne_none_iff_exists'.1 (by simpa using hn)
        exact .inr (by simp [hb])
      case isFalse => exact .inl rfl

end Memory

/-! ## The database storage -/

/-- What a row of `activities` shows of its activity: the status (a draft when it has none), the
title and the time limit, each read as an activity reads it. -/
def rowEditable (r : Row) : Option (ActivityStatus × String × Option Int) := do
  let status ← (Schema.field r "status" (Schema.literal ["DRAFT", "PUBLISHED"]) (some "DRAFT")).toOption
  let title ← (Schema.field r "title" Schema.str none).toOption
  let limit ← (Schema.field r "time_limit_seconds" (Schema.nullable Schema.int) (some none)).toOption
  pure (if status == "PUBLISHED" then .published else .draft, title, limit)

/-- The columns an update of an activity writes. -/
def editableColumns (a : Activity) : Row :=
  [("title", .str a.title), ("status", .str a.status.name),
    ("time_limit_seconds", Json.ofIntOpt a.timeLimitSeconds)]

/-- A row an activity reads from shows the activity's status, title and time limit. -/
theorem rowEditable_of_check {r : Row} {a : Activity} (h : Activity.check (.obj r) = .ok a) :
    rowEditable r = some a.editable := by
  unfold Activity.check at h
  simp only [Schema.entries, bind, Except.bind] at h
  split at h
  case h_1 hid hthread htitle hprompt hproblems hstatus hlimit hcreated =>
    cases h
    simp [rowEditable, htitle, hstatus, hlimit, Except.toOption, Activity.editable]
  case h_2 => cases h

/-- A row with an activity's columns written shows the activity's status, title and time
limit. -/
theorem rowEditable_write (a : Activity) (r : Row) :
    rowEditable ((editableColumns a).foldl (fun acc e => Json.setEntry acc e.1 e.2) r) =
      some a.editable := by
  have hnodup : ((editableColumns a).map (·.1)).Nodup := by simp [editableColumns]
  -- the three columns read back as written
  have hlook (k : String) := Json.lookup_foldl_setEntry hnodup r k
  have hstatus : Json.lookup ((editableColumns a).foldl (fun acc e => Json.setEntry acc e.1 e.2) r)
      "status" = some (.str a.status.name) := by
    rw [hlook]
    simp [editableColumns, Json.lookup_cons]
  have htitle : Json.lookup ((editableColumns a).foldl (fun acc e => Json.setEntry acc e.1 e.2) r)
      "title" = some (.str a.title) := by
    rw [hlook]
    simp [editableColumns, Json.lookup_cons]
  have hlimit : Json.lookup ((editableColumns a).foldl (fun acc e => Json.setEntry acc e.1 e.2) r)
      "time_limit_seconds" = some (Json.ofIntOpt a.timeLimitSeconds) := by
    rw [hlook]
    simp [editableColumns, Json.lookup_cons]
  -- and each is read as the activity's own value
  have hname : Schema.literal ["DRAFT", "PUBLISHED"] (.str a.status.name) = .ok a.status.name := by
    cases a.status <;> rfl
  have hint : Schema.nullable Schema.int (Json.ofIntOpt a.timeLimitSeconds) =
      .ok a.timeLimitSeconds := by
    cases a.timeLimitSeconds <;> rfl
  have hback : (if a.status.name = "PUBLISHED" then ActivityStatus.published else .draft) =
      a.status := by
    cases a.status <;> decide
  simp only [rowEditable, Schema.field, hstatus, htitle, hlimit, Schema.at_, hname, hint,
    Schema.str, Except.toOption]
  simp [hback, Activity.editable]

/-- The columns an update of an activity writes are its title, status and time limit. -/
theorem updateColumns_eq (a : Activity) :
    (rowOf a.toJson).filter (fun e => ["title", "status", "time_limit_seconds"].contains e.1) =
      editableColumns a := by
  simp [rowOf, Activity.toJson, editableColumns]

/-- Writing an activity's columns keeps a row's id. -/
theorem hasId_write (a : Activity) (i : String) (r : Row) :
    Tables.hasId i ((editableColumns a).foldl (fun acc e => Json.setEntry acc e.1 e.2) r) =
      Tables.hasId i r := by
  have hnodup : ((editableColumns a).map (·.1)).Nodup := by simp [editableColumns]
  simp only [Tables.hasId, Tables.rowId, Json.lookup_foldl_setEntry hnodup]
  simp [editableColumns, Json.lookup]

namespace Api.Site

open Tables

/-- What the database shows of the activity `id`: its first row of `activities`, read by
`rowEditable`. -/
def shownActivity (id : String) (w : Site) : Option (ActivityStatus × String × Option Int) :=
  ((w.tables.rows "activities").find? (hasId id)).bind rowEditable

/-- Reading an activity from the database writes no row, and an activity it gives is the record
of the first row with its id. -/
theorem activity_outcome (id : String) (w : Site) :
    (∀ t, (((Storage.ofDatabase database now).activity id).run' w).2.tables.rows t =
      w.tables.rows t) ∧
    ∀ {a : Activity} {w' : Site}, ((Storage.ofDatabase database now).activity id).run' w = (.ok a, w') →
      ∃ r, (w.tables.rows "activities").find? (hasId id) = some r ∧ Activity.check (.obj r) = .ok a := by
  simp only [Storage.activity, Storage.ofDatabase, Effect.run'_bind, database_run']
  have hsel := unwritten_of_select "activities" (some id) none none true w.tables
  rcases hs : (Tables.run (.select "activities" (some id) none none true)).run' w.tables with
    ⟨_ | v, T⟩
  · rw [hs] at hsel
    exact ⟨hsel.rows, fun h => by cases h⟩
  · rw [hs] at hsel
    dsimp only
    cases hf : Storage.firstRow v with
    | none => exact ⟨hsel.rows, fun h => by simp at h⟩
    | some r =>
      simp only [Storage.readRow, Effect.run'_bind, Effect.run'_ofExcept]
      cases hc : Activity.check (.obj r) with
      | error e => exact ⟨hsel.rows, fun h => by simp [Except.mapError] at h⟩
      | ok b =>
        refine ⟨hsel.rows, fun h => ?_⟩
        simp only [Except.mapError, Effect.run'_pure, Prod.mk.injEq, Except.ok.injEq] at h
        exact ⟨r, find?_of_select_one hs hf, h.1 ▸ hc⟩

/-- **The database storage shows the activity as `Shows` says**: an update writes the title,
status and time limit into the rows with the copy's id, and no other column. -/
theorem storage_shows (id : String) : (Storage.ofDatabase database now).Shows id (shownActivity id) where
  read_keeps w := by simp only [shownActivity, (activity_outcome id w).1]
  read_shown {w w' a} h := by
    obtain ⟨r, hr, hc⟩ := (activity_outcome id w).2 h
    simp [shownActivity, hr, rowEditable_of_check hc]
  write_shown w a := by
    simp only [Storage.ofDatabase, Effect.run'_bind, database_run', updateColumns_eq]
    rcases hu : (Tables.run (.update "activities" (editableColumns a) a.id)).run' w.tables with
      ⟨_ | v, T⟩
    · exact .inl (by simp only [shownActivity, rows_of_run_error hu])
    · simp only [Effect.run'_pure, shownActivity]
      rw [rows_of_run_ok hu]
      simp only [Query.table, if_true, Query.written, List.find?_map]
      -- the rows with the id `id` are the same rows after the write
      have hkeep : (hasId id ∘ fun r => if hasId a.id r then
          (editableColumns a).foldl (fun acc e => Json.setEntry acc e.1 e.2) r else r) = hasId id := by
        funext r
        by_cases h : hasId a.id r = true <;> simp [h, hasId_write]
      rw [hkeep]
      cases hf : (w.tables.rows "activities").find? (hasId id) with
      | none => exact .inl rfl
      | some r =>
        -- that row took the copy's columns exactly when the copy has its id
        by_cases ha : hasId a.id r = true
        · exact .inr (by simp [ha, rowEditable_write])
        · exact .inl (by simp [ha])

end Api.Site

namespace Storage

/-- The draft, published. -/
def publishedActivity : Activity := { draftActivity with status := .published }

/-- The copy a patch of the draft to the title `New title` writes. -/
def patchedActivity : Activity := draftActivity.patched (some "New title") none

/-- A memory holding the draft published. -/
def publishedMemory : Memory := { draftMemory with activities := [publishedActivity] }

/-- **A patch across a publish undoes it.**  A patch reads the draft; a publish reads it too and
writes it published; the patch then writes its copy, a draft under the new title, over the
published activity. -/
theorem patch_across_publish :
    ¬ Memory.storage.KeepsPublished "a1" (Memory.shownActivity "a1") draftMemory
      [.patch (some "New title") none, .publish] := by
  intro hkeep
  let reverted : Memory := { draftMemory with activities := [patchedActivity] }
  have hread₁ : Memory.storage.Move "a1"
      (draftMemory, [.waiting (.patch (some "New title") none), .waiting .publish])
      (draftMemory, [.holding patchedActivity, .waiting .publish]) :=
    @Move.read _ Memory.storage "a1" draftMemory draftMemory (.ok draftActivity) [] [.waiting .publish]
      _ rfl
  have hread₂ : Memory.storage.Move "a1"
      (draftMemory, [.holding patchedActivity, .waiting .publish])
      (draftMemory, [.holding patchedActivity, .holding publishedActivity]) :=
    @Move.read _ Memory.storage "a1" draftMemory draftMemory (.ok draftActivity)
      [.holding patchedActivity] [] .publish rfl
  have hwrite₁ : Memory.storage.Move "a1"
      (draftMemory, [.holding patchedActivity, .holding publishedActivity])
      (publishedMemory, [.holding patchedActivity, .answered (.ok publishedActivity)]) :=
    @Move.write _ Memory.storage "a1" draftMemory publishedMemory (.ok publishedActivity)
      [.holding patchedActivity] [] publishedActivity rfl
  have hwrite₂ : Memory.storage.Move "a1"
      (publishedMemory, [.holding patchedActivity, .answered (.ok publishedActivity)])
      (reverted, [.answered (.ok patchedActivity), .answered (.ok publishedActivity)]) :=
    @Move.write _ Memory.storage "a1" publishedMemory reverted (.ok patchedActivity) []
      [.answered (.ok publishedActivity)] patchedActivity rfl
  have h := hkeep _ _ (((Relation.ReflTransGen.single hread₁).tail hread₂).tail hwrite₁)
    (.single hwrite₂) "Title" none (by decide)
  exact absurd h (by decide)

end Storage

/-- **Published stays published, among requests side by side.**  For a storage that treats the
activity as `Shows` says, as the in-memory and the database storage do: once it is shown
published and every copy a request still holds agrees with it, every interleaving of the
requests keeps it published with its title and time limit; and publishing a published activity
only reads it. -/
theorem Storage.published_stays {σ : Type} (st : Storage σ) {id : String}
    {shown : σ → Option (ActivityStatus × String × Option Int)} (hst : st.Shows id shown) :
    (∀ (title : String) (limit : Option Int) (s s' : σ × List Storage.Stage),
      Storage.Settled shown title limit s → st.Served id s s' →
        Storage.Settled shown title limit s') ∧
    (∀ (w w' : σ) (a : Activity), (st.activity id).run' w = (.ok a, w') →
      a.status = .published → (st.publishActivity id).run' w = (.ok a, w')) :=
  ⟨fun _ _ _ _ hs hrun => hs.served hst hrun, fun _ _ _ h hp => st.publishActivity_published h hp⟩

/-- Once the draft is published in memory, a patch and a publish served side by side leave it
published under its title. -/
theorem Storage.publishedMemory_stays :
    Memory.storage.Shows "a1" (Memory.shownActivity "a1") ∧
    ∀ s' : Memory × List Storage.Stage, Memory.storage.Served "a1"
        (Storage.publishedMemory, [.waiting (.patch (some "New title") none), .waiting .publish]) s' →
      Storage.Settled (Memory.shownActivity "a1") "Title" none s' :=
  ⟨Memory.storage_shows "a1", fun s' hrun =>
    (Storage.published_stays Memory.storage (Memory.storage_shows "a1")).1 "Title" none _ s'
      ⟨by decide, by simp⟩ hrun⟩

end PracticeForge
