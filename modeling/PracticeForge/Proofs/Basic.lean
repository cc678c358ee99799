import Mathlib
import PracticeForge.Json.Value

/-!
# Proofs/Basic — peeling results and entry lists

Two small toolkits the other proofs lean on.  A computation in `Except` that succeeded was
successful at every bind on the way (`Except.bind_eq_ok`), so a proof about a `do` block takes
its steps apart with `obtain` instead of unfolding the block.  An entry list read after a write
holds the written value under its key and the old ones under every other key
(`Json.lookup_setEntry`).
-/

namespace PracticeForge

/-! ## Successful computations -/

namespace Except

variable {ε α β : Type}

theorem bind_eq_ok {x : Except ε α} {f : α → Except ε β} {b : β} :
    x >>= f = .ok b ↔ ∃ a, x = .ok a ∧ f a = .ok b := by
  cases x <;> simp [bind, Except.bind]

theorem map_eq_ok {x : Except ε α} {f : α → β} {b : β} :
    x.map f = .ok b ↔ ∃ a, x = .ok a ∧ f a = b := by
  cases x <;> simp [Except.map]

theorem mapError_eq_ok {ε' : Type} {x : Except ε α} {f : ε → ε'} {a : α} :
    x.mapError f = .ok a ↔ x = .ok a := by
  cases x <;> simp [Except.mapError]

@[simp] theorem pure_eq_ok {a b : α} : (pure a : Except ε α) = .ok b ↔ a = b := by
  simp [pure, Except.pure]

/-- What every step of a successful fold keeps, the fold keeps. -/
theorem foldlM_inv {γ : Type} (P : β → Prop) {f : β → γ → Except ε β}
    (hf : ∀ b a b', P b → f b a = .ok b' → P b') :
    ∀ {xs : List γ} {b b' : β}, P b → xs.foldlM f b = .ok b' → P b'
  | [], _, _, hb, h => by simp_all [pure, Except.pure]
  | a :: xs, b, b', hb, h => by
    rw [List.foldlM_cons] at h
    obtain ⟨b1, h1, h2⟩ := bind_eq_ok.1 h
    exact foldlM_inv P hf (hf b a b1 hb h1) h2

/-- A fold whose every step succeeds, with the result `g` gives, computes the fold of `g`. -/
theorem foldlM_eq_ok_foldl {γ : Type} {f : β → γ → Except ε β} {g : β → γ → β}
    (h : ∀ b x, f b x = .ok (g b x)) :
    ∀ (xs : List γ) (b : β), xs.foldlM f b = .ok (xs.foldl g b)
  | [], _ => rfl
  | x :: xs, b => by
    rw [List.foldlM_cons, h b x, List.foldl_cons]
    exact foldlM_eq_ok_foldl h xs (g b x)

@[simp] theorem throw_ne_ok {e : ε} {b : α} : (throw e : Except ε α) ≠ .ok b := by
  simp [throw, throwThe, MonadExceptOf.throw]

/-- A successful `mapM` succeeded on every item, in order. -/
theorem mapM_eq_ok {γ : Type} {f : γ → Except ε α} :
    ∀ {xs : List γ} {ys : List α}, xs.mapM f = .ok ys → List.Forall₂ (fun x y => f x = .ok y) xs ys
  | [], ys, h => by
    rw [List.mapM_nil, pure_eq_ok] at h
    subst h
    exact .nil
  | x :: xs, ys, h => by
    rw [List.mapM_cons] at h
    obtain ⟨y, hy, h⟩ := bind_eq_ok.1 h
    obtain ⟨ys', hys, h⟩ := bind_eq_ok.1 h
    rw [pure_eq_ok] at h
    subst h
    exact .cons hy (mapM_eq_ok hys)

theorem bind_eq_error {x : Except ε α} {f : α → Except ε β} {e : ε} :
    x >>= f = .error e ↔ x = .error e ∨ ∃ a, x = .ok a ∧ f a = .error e := by
  cases x <;> simp [bind, Except.bind]

/-- A failed `mapM` failed on some item. -/
theorem mapM_eq_error {γ : Type} {f : γ → Except ε α} {e : ε} :
    ∀ {xs : List γ}, xs.mapM f = .error e → ∃ x ∈ xs, f x = .error e
  | [], h => by simp [pure, Except.pure] at h
  | x :: xs, h => by
    rw [List.mapM_cons] at h
    rcases bind_eq_error.1 h with hx | ⟨y, -, h⟩
    · exact ⟨x, List.mem_cons_self, hx⟩
    rcases bind_eq_error.1 h with hxs | ⟨ys, -, h⟩
    · obtain ⟨x', hx', h'⟩ := mapM_eq_error hxs
      exact ⟨x', List.mem_cons_of_mem _ hx', h'⟩
    · simp [pure, Except.pure] at h

end Except

/-! ## Folds -/

/-- What a fold keeps, with the items already folded in view: each step may use that its item
comes after those. -/
theorem foldl_prefix_inv {α β : Type} {f : β → α → β} (P : List α → β → Prop) {l : List α}
    {b b' : β} (h0 : P [] b)
    (hs : ∀ done a rest b, done ++ a :: rest = l → P done b → P (done ++ [a]) (f b a))
    (h : l.foldl f b = b') : P l b' := by
  subst h
  -- the fold of the rest, from the state after `done`
  suffices key : ∀ rest done b, done ++ rest = l → P done b → P l (rest.foldl f b) from
    key l [] b rfl h0
  intro rest
  induction rest with
  | nil => intro done b hl hb; simpa [← hl] using hb
  | cons a rest ih =>
    intro done b hl hb
    exact ih (done ++ [a]) (f b a) (by simp [← hl]) (hs done a rest b hl hb)

/-! ## Related lists -/

/-- Two lists related item by item have equal images when related items do. -/
theorem map_eq_map_of_forall₂ {α β γ : Type} {R : α → β → Prop} {f : α → γ} {g : β → γ}
    (h : ∀ a b, R a b → f a = g b) {xs : List α} {ys : List β} (hr : List.Forall₂ R xs ys) :
    xs.map f = ys.map g := by
  induction hr with
  | nil => rfl
  | cons hab _ ih => rw [List.map_cons, List.map_cons, h _ _ hab, ih]

/-- Each item of the right list is related to an item of the left one. -/
theorem forall₂_exists_of_mem {α β : Type} {R : α → β → Prop} :
    ∀ {l₁ : List α} {l₂ : List β}, List.Forall₂ R l₁ l₂ → ∀ {b}, b ∈ l₂ → ∃ a ∈ l₁, R a b
  | _, _, .cons hab hrest, b, hb => by
    rcases List.mem_cons.1 hb with rfl | hb
    · exact ⟨_, List.mem_cons_self .., hab⟩
    · obtain ⟨a, ha, hr⟩ := forall₂_exists_of_mem hrest hb
      exact ⟨a, List.mem_cons_of_mem _ ha, hr⟩

/-! ## Entry lists -/

namespace Json

theorem lookup_cons (k : String) (e : String × Json) (fs : List (String × Json)) :
    lookup (e :: fs) k = if e.1 = k then some e.2 else lookup fs k := by
  by_cases h : e.1 = k <;> simp [lookup, h]

theorem lookup_append (k : String) (fs gs : List (String × Json)) :
    lookup (fs ++ gs) k = (lookup fs k).or (lookup gs k) := by
  induction fs with
  | nil => simp [lookup]
  | cons e fs ih => by_cases h : e.1 = k <;> simp [lookup_cons, h, ih]

theorem lookup_eq_none {fs : List (String × Json)} {k : String} (h : fs.any (·.1 == k) = false) :
    lookup fs k = none := by
  induction fs with
  | nil => rfl
  | cons e fs ih =>
    have he : ¬ e.1 = k := by simpa using (List.any_eq_false.1 h) e (by simp)
    rw [lookup_cons, if_neg he]
    exact ih (by simpa [he] using h)

/-- A key that reads back a value is one of the keys. -/
theorem mem_keys_of_lookup {fs : List (String × Json)} {k : String} {v : Json}
    (h : lookup fs k = some v) : k ∈ fs.map (·.1) := by
  by_contra hk
  rw [lookup_eq_none (List.any_eq_false.2 fun e he hek => hk ?_)] at h
  · cases h
  · rw [← beq_iff_eq.1 hek]
    exact List.mem_map_of_mem he

/-- Every entry under a key given a new value, read back. -/
theorem lookup_map_set (fs : List (String × Json)) (k k' : String) (v : Json) :
    lookup (fs.map fun e => if e.1 == k then (k, v) else e) k' =
      if k = k' then (if fs.any (·.1 == k) then some v else none) else lookup fs k' := by
  induction fs with
  | nil => simp [lookup]
  | cons e fs ih =>
    rw [List.map_cons, lookup_cons, ih]
    by_cases he : e.1 = k
    · by_cases hkk : k = k' <;> simp [he, hkk, lookup_cons]
    · have hb : (e.1 == k) = false := by simpa using he
      by_cases hkk : k = k'
      · subst hkk
        simp only [List.any_cons, hb, Bool.false_or, if_true, Bool.false_eq_true, if_false,
          if_neg he]
      · simp [hb, hkk, lookup_cons]

/-- **A write then a read.**  The written key holds the new value; every other key keeps its
old one. -/
theorem lookup_setEntry (fs : List (String × Json)) (k k' : String) (v : Json) :
    lookup (setEntry fs k v) k' = if k = k' then some v else lookup fs k' := by
  by_cases hk : fs.any (·.1 == k)
  · simp only [setEntry, hk, if_true, lookup_map_set]
  · have hk' : fs.any (·.1 == k) = false := Bool.eq_false_iff.2 hk
    simp only [setEntry, hk', Bool.false_eq_true, if_false, lookup_append]
    by_cases hkk : k = k'
    · subst hkk
      simp [lookup_eq_none hk', lookup_cons]
    · simp [hkk, lookup]

/-- **Writes in order.**  Entries with distinct keys, written one after another, are read
back before what was there. -/
theorem lookup_foldl_setEntry {vs : List (String × Json)} (hk : (vs.map (·.1)).Nodup)
    (fs : List (String × Json)) (k : String) :
    lookup (vs.foldl (fun acc e => setEntry acc e.1 e.2) fs) k = (lookup vs k).or (lookup fs k) := by
  induction vs generalizing fs with
  | nil => simp [lookup]
  | cons e vs ih =>
    simp only [List.map_cons, List.nodup_cons] at hk
    rw [List.foldl_cons, ih hk.2, lookup_setEntry, lookup_cons]
    by_cases he : e.1 = k
    · subst he
      -- a key written once is not written again
      have hnone : lookup vs e.1 = none := by
        refine lookup_eq_none (List.any_eq_false.2 fun x hx hxe => hk.1 ?_)
        rw [← beq_iff_eq.1 hxe]
        exact List.mem_map_of_mem hx
      simp [hnone]
    · simp [he]

end Json

end PracticeForge
