import PracticeForge.Proofs.Basic
import PracticeForge.Text.Words

/-!
# Proofs/Text/Words — white space squeezed and trimmed

Squeezing a text keeps its words, the maximal runs of characters other than white space, and
joins them with single spaces.  Read as a list of characters, the words are the non-empty pieces
of the text split at its white space (`Text.words_eq`); everything else follows from that:

* `Text.squeeze_squeeze` — squeezing twice is squeezing once;
* `Text.squeeze_of_prefix` — a piece cut from the start of a squeezed text is squeezed itself
  when it does not end in white space, and `Text.squeeze_trimEnd_of_prefix` — so it is once
  trimmed at its end;
* `Text.squeeze_append_word` — a word run on at the end of a squeezed text leaves it squeezed;
* `Text.trim_trim` — trimming twice is trimming once.
-/

namespace PracticeForge

namespace Text

/-! ## Words as pieces -/

@[simp] theorem isSpace_space : isSpace ' ' = true := by decide

/-- A word: a non-empty run of characters none of which is white space. -/
def IsWord (w : List Char) : Prop := w ≠ [] ∧ ∀ c ∈ w, isSpace c = false

/-- The words of a list of characters: the non-empty pieces between its white space. -/
def wordList (cs : List Char) : List (List Char) := (cs.splitOnP isSpace).filter (· ≠ [])

@[simp] theorem wordList_nil : wordList [] = [] := rfl

theorem wordList_cons_space {c : Char} (hc : isSpace c = true) (cs : List Char) :
    wordList (c :: cs) = wordList cs := by
  simp [wordList, List.splitOnP_cons_eq_if_modifyHead, hc]

theorem wordList_word {w : List Char} (hw : IsWord w) : wordList w = [w] := by
  simp [wordList, List.splitOnP_eq_singleton hw.2, hw.1]

theorem wordList_word_append {w : List Char} (hw : IsWord w) {c : Char} (hc : isSpace c = true)
    (cs : List Char) : wordList (w ++ c :: cs) = w :: wordList cs := by
  simp [wordList, List.splitOnP_append_cons_of_forall_mem hw.2 c hc, hw.1]

/-- The pieces of a split hold no separator. -/
theorem not_mem_splitOnP {p : Char → Bool} :
    ∀ {cs : List Char} {w : List Char}, w ∈ cs.splitOnP p → ∀ c ∈ w, p c = false
  | [], w, hw => by simp at hw; simp [hw]
  | x :: cs, w, hw => by
    rw [List.splitOnP_cons_eq_if_modifyHead] at hw
    split at hw
    · rcases List.mem_cons.1 hw with rfl | hw
      · simp
      · exact not_mem_splitOnP hw
    · next hx =>
      obtain ⟨h, t, ht⟩ := List.exists_cons_of_ne_nil (List.splitOnP_ne_nil p cs)
      rw [ht, List.modifyHead_cons] at hw
      rcases List.mem_cons.1 hw with rfl | hw
      · intro c hc
        rcases List.mem_cons.1 hc with rfl | hc
        · simpa using hx
        · exact not_mem_splitOnP (ht ▸ List.mem_cons_self) c hc
      · exact not_mem_splitOnP (ht ▸ List.mem_cons_of_mem _ hw)

theorem isWord_of_mem_wordList {cs w : List Char} (h : w ∈ wordList cs) : IsWord w := by
  obtain ⟨hw, hne⟩ := List.mem_filter.1 h
  exact ⟨by simpa using hne, not_mem_splitOnP hw⟩

/-- Words joined by single spaces split back into the same words. -/
theorem wordList_intercalate : ∀ {ws : List (List Char)}, (∀ w ∈ ws, IsWord w) →
    wordList ([' '].intercalate ws) = ws
  | [], _ => rfl
  | [w], hws => by simpa using wordList_word (hws w (by simp))
  | w :: w' :: ws, hws => by
    rw [List.intercalate_cons_cons, List.append_assoc, List.singleton_append,
      wordList_word_append (hws w (by simp)) isSpace_space,
      wordList_intercalate fun v hv => hws v (List.mem_cons_of_mem _ hv)]

/-! ## The words of a text -/

/-- One character's step of `words`: white space closes the current run (kept reversed at the
head), any other character extends it. -/
def wordStep (acc : List (List Char)) (c : Char) : List (List Char) :=
  if isSpace c then (if acc.headD [] = [] then acc else [] :: acc)
  else match acc with
    | [] => [[c]]
    | w :: rest => (c :: w) :: rest

theorem words_eq_foldl (s : String) :
    words s = (((s.toList.foldl wordStep [[]]).filter (· ≠ [])).reverse.map List.reverse).map
      String.ofList := by
  simp only [words, List.map_map]
  rfl

/-- The runs of the fold, read forwards: the closed runs, then the words of the current run and
the characters still to come. -/
theorem foldl_wordStep (cs : List Char) : ∀ (cur : List Char) (done : List (List Char)),
    (∀ w ∈ done, w ≠ []) → (∀ c ∈ cur, isSpace c = false) →
    ((cs.foldl wordStep (cur :: done)).filter (· ≠ [])).reverse.map List.reverse =
      done.reverse.map List.reverse ++ wordList (cur.reverse ++ cs) := by
  induction cs with
  | nil =>
    intro cur done hdone hcur
    have hkeep : done.filter (fun w => !decide (w = [])) = done :=
      List.filter_eq_self.2 (by simpa using hdone)
    by_cases hc : cur = []
    · subst hc
      simp [hkeep]
    · have hw : IsWord cur.reverse := ⟨by simpa using hc, by simpa using hcur⟩
      simp [hc, hkeep, wordList_word hw]
  | cons c cs ih =>
    intro cur done hdone hcur
    by_cases hsp : isSpace c = true
    · by_cases hc : cur = []
      · -- a blank with no run open changes nothing
        subst hc
        simp only [List.foldl_cons, wordStep, hsp, List.headD_cons, if_true]
        rw [ih [] done hdone (by simp)]
        simp [wordList_cons_space hsp]
      · -- a blank closes the open run
        have hw : IsWord cur.reverse := ⟨by simpa using hc, by simpa using hcur⟩
        simp only [List.foldl_cons, wordStep, hsp, List.headD_cons, if_true, hc, if_false]
        rw [ih [] (cur :: done) (by simpa [hc] using hdone) (by simp),
          wordList_word_append hw hsp]
        simp
    · have hsp' : isSpace c = false := by simpa using hsp
      simp only [List.foldl_cons, wordStep, hsp', Bool.false_eq_true, if_false]
      rw [ih (c :: cur) done hdone (by simpa [hsp'] using hcur)]
      simp

/-- **The words of a text** are the non-empty pieces between its white space. -/
theorem words_eq (s : String) : words s = (wordList s.toList).map String.ofList := by
  have h := foldl_wordStep s.toList [] [] (by simp) (by simp)
  simp only [List.reverse_nil, List.map_nil, List.nil_append] at h
  rw [words_eq_foldl, h]

theorem toList_squeeze (s : String) :
    (squeeze s).toList = [' '].intercalate (wordList s.toList) := by
  simp [squeeze, words_eq, List.map_map, Function.comp_def]

/-! ## Squeezed texts -/

/-- A squeezed text is its words joined by single spaces. -/
theorem toList_eq_of_squeeze {t : String} (ht : squeeze t = t) :
    t.toList = [' '].intercalate (wordList t.toList) := by
  rw [← toList_squeeze, ht]

/-- Words joined by single spaces are squeezed. -/
theorem squeeze_eq_of_words {t : String} {ws : List (List Char)} (hws : ∀ w ∈ ws, IsWord w)
    (ht : t.toList = [' '].intercalate ws) : squeeze t = t := by
  apply String.toList_injective
  rw [toList_squeeze, ht, wordList_intercalate hws]

/-- **Squeezing twice is squeezing once.** -/
theorem squeeze_squeeze (s : String) : squeeze (squeeze s) = squeeze s :=
  squeeze_eq_of_words (fun _ hw => isWord_of_mem_wordList hw) (toList_squeeze s)

/-- A non-empty piece from the start of words joined by single spaces, ending in no white
space, is again words joined by single spaces. -/
theorem exists_words_of_prefix : ∀ {ws : List (List Char)}, (∀ w ∈ ws, IsWord w) →
    ∀ {t : List Char}, t <+: [' '].intercalate ws → t ≠ [] →
      (∀ c ∈ t.getLast?, isSpace c = false) →
        ∃ vs, (∀ v ∈ vs, IsWord v) ∧ t = [' '].intercalate vs
  | [], _, t, ht, hne, _ => absurd (List.prefix_nil.1 ht) hne
  | [w], hws, t, ht, hne, _ => by
    -- a piece of a single word is a word
    rw [List.intercalate_singleton] at ht
    have hword : IsWord t := ⟨hne, fun c hc => (hws w (by simp)).2 c (ht.subset hc)⟩
    exact ⟨[t], by simpa using hword, by simp⟩
  | w :: w' :: ws, hws, t, ht, hne, hlast => by
    have hw := hws w (by simp)
    rw [List.intercalate_cons_cons, List.append_assoc, List.singleton_append] at ht
    rcases List.prefix_or_prefix_of_prefix ht (List.prefix_append w _) with htw | hwt
    · exact ⟨[t], by simpa using ⟨hne, fun c hc => hw.2 c (htw.subset hc)⟩, by simp⟩
    · -- the piece runs past the first word: what follows is a blank and a piece of the rest
      obtain ⟨u, rfl⟩ := List.prefix_iff_exists_eq_append.1 hwt
      rw [List.prefix_append_right_inj] at ht
      rcases List.prefix_cons_iff.1 ht with rfl | ⟨u', rfl, hu'⟩
      · exact ⟨[w], by simpa using hw, by simp⟩
      · have hu'ne : u' ≠ [] := by
          rintro rfl
          exact absurd (hlast ' ' (by simp)) (by rw [isSpace_space]; decide)
        have hlast' : ∀ c ∈ u'.getLast?, isSpace c = false := by
          intro c hc
          apply hlast c
          simp [List.getLast?_cons, Option.mem_def.1 hc]
        obtain ⟨vs, hvs, rfl⟩ :=
          exists_words_of_prefix (fun v hv => hws v (List.mem_cons_of_mem _ hv)) hu' hu'ne hlast'
        have hvsne : vs ≠ [] := by rintro rfl; exact hu'ne rfl
        obtain ⟨v, vs, rfl⟩ := List.exists_cons_of_ne_nil hvsne
        refine ⟨w :: v :: vs, ?_, by simp [List.intercalate_cons_cons]⟩
        intro x hx
        rcases List.mem_cons.1 hx with rfl | hx
        · exact hw
        · exact hvs x hx

/-- **A cut squeezed text.**  A non-empty piece from the start of a squeezed text is squeezed
itself unless it ends in white space. -/
theorem squeeze_of_prefix {u t : String} (hu : squeeze u = u) (ht : t.toList <+: u.toList)
    (hne : t ≠ "") (hlast : ∀ c ∈ t.toList.getLast?, isSpace c = false) : squeeze t = t := by
  rw [toList_eq_of_squeeze hu] at ht
  obtain ⟨vs, hvs, hvt⟩ := exists_words_of_prefix (fun _ hw => isWord_of_mem_wordList hw) ht
    (by simpa using hne) hlast
  exact squeeze_eq_of_words hvs hvt

/-- Words joined by single spaces, with a word run on at the end, are again words joined by
single spaces: the word extends the last one, or stands alone when there is none. -/
theorem exists_words_append {x : List Char} (hx : IsWord x) : ∀ {ws : List (List Char)},
    (∀ w ∈ ws, IsWord w) →
      ∃ vs, (∀ v ∈ vs, IsWord v) ∧ [' '].intercalate ws ++ x = [' '].intercalate vs
  | [], _ => ⟨[x], by simpa using hx, by simp⟩
  | [w], hws => by
    have hw := hws w (by simp)
    refine ⟨[w ++ x], ?_, by simp⟩
    simp only [List.mem_singleton, forall_eq]
    refine ⟨by simp [hw.1], fun c hc => ?_⟩
    rcases List.mem_append.1 hc with hc | hc
    · exact hw.2 c hc
    · exact hx.2 c hc
  | w :: w' :: ws, hws => by
    obtain ⟨vs, hvs, heq⟩ :=
      @exists_words_append x hx (w' :: ws) fun v hv => hws v (List.mem_cons_of_mem _ hv)
    -- the rest ends in the word, so its words are not none
    obtain ⟨v, vs, rfl⟩ : ∃ v vs', vs = v :: vs' := by
      cases vs with
      | nil => exact absurd (List.append_eq_nil_iff.1 heq).2 hx.1
      | cons v vs' => exact ⟨v, vs', rfl⟩
    refine ⟨w :: v :: vs, ?_, ?_⟩
    · intro u hu
      rcases List.mem_cons.1 hu with rfl | hu
      · exact hws u (by simp)
      · exact hvs u hu
    · rw [List.intercalate_cons_cons, List.intercalate_cons_cons, ← heq]
      simp

/-- **A word run on at the end of a squeezed text** leaves it squeezed. -/
theorem squeeze_append_word {t x : String} (ht : squeeze t = t) (hx : IsWord x.toList) :
    squeeze (t ++ x) = t ++ x := by
  obtain ⟨vs, hvs, heq⟩ := exists_words_append hx fun _ hw => isWord_of_mem_wordList hw
  exact squeeze_eq_of_words hvs (by rw [String.toList_append, toList_eq_of_squeeze ht, heq])

/-! ## Digits -/

/-- A digit is no white space. -/
theorem isSpace_of_mem_toDigits {c : Char} : ∀ {n : Nat}, c ∈ Nat.toDigits 10 n →
    isSpace c = false
  | n, hc => by
    have hdigit : ∀ d < 10, isSpace (Nat.digitChar d) = false := by decide
    rw [Nat.toDigits_eq_if (by decide)] at hc
    split at hc
    · rw [List.mem_singleton.1 hc]
      exact hdigit n ‹_›
    · -- the leading digits, then the last one
      rcases List.mem_append.1 hc with hc | hc
      · exact isSpace_of_mem_toDigits hc
      · rw [List.mem_singleton.1 hc]
        exact hdigit _ (Nat.mod_lt n (by decide))
  termination_by n => n
  decreasing_by omega

/-- The digits of a number make a word. -/
theorem isWord_toDigits (n : Nat) : IsWord (Nat.toDigits 10 n) :=
  ⟨Nat.toDigits_ne_nil, fun _ hc => isSpace_of_mem_toDigits hc⟩

/-! ## Cutting -/

theorem length_take_le (s : String) (n : Nat) : (take s n).length ≤ n := by
  simp [take, String.length_ofList]

theorem take_prefix (s : String) (n : Nat) : (take s n).toList <+: s.toList := by
  simpa [take] using List.take_prefix n s.toList

theorem take_of_length_le {s : String} {n : Nat} (h : s.length ≤ n) : take s n = s := by
  rw [take, List.take_of_length_le (by rw [String.length_toList]; exact h), String.ofList_toList]

/-! ## Trimming -/

theorem trim_eq (s : String) :
    trim s = String.ofList ((s.toList.dropWhile isSpace).rdropWhile isSpace) := by
  simp [trim, trimEnd, trimStart, List.rdropWhile]

theorem toList_trimEnd (s : String) : (trimEnd s).toList = s.toList.rdropWhile isSpace := by
  simp [trimEnd, List.rdropWhile]

theorem trimEnd_prefix (s : String) : (trimEnd s).toList <+: s.toList := by
  rw [toList_trimEnd]
  exact List.rdropWhile_prefix isSpace s.toList

/-- What trimming at the end leaves ends in no white space. -/
theorem getLast?_trimEnd (s : String) : ∀ c ∈ (trimEnd s).toList.getLast?, isSpace c = false := by
  intro c hc
  rw [toList_trimEnd] at hc
  have hne : s.toList.rdropWhile isSpace ≠ [] := by
    rintro h
    simp [h] at hc
  rw [List.getLast?_eq_some_getLast hne, Option.mem_some_iff] at hc
  subst hc
  simpa using List.rdropWhile_last_not isSpace s.toList hne

/-- **A piece from the start of a squeezed text, trimmed at its end**, is squeezed. -/
theorem squeeze_trimEnd_of_prefix {u t : String} (hu : squeeze u = u)
    (ht : t.toList <+: u.toList) : squeeze (trimEnd t) = trimEnd t := by
  by_cases hne : trimEnd t = ""
  · rw [hne]
    decide
  · have hpre := trimEnd_prefix t
    exact squeeze_of_prefix hu (hpre.trans ht) hne (getLast?_trimEnd t)

/-- **Trimming twice is trimming once.** -/
theorem trim_trim (s : String) : trim (trim s) = trim s := by
  rw [trim_eq (trim s), trim_eq s, String.toList_ofList]
  -- what trimming leaves starts with no white space, so only the end is trimmed again
  have hstart : ((s.toList.dropWhile isSpace).rdropWhile isSpace).dropWhile isSpace =
      (s.toList.dropWhile isSpace).rdropWhile isSpace := by
    rw [List.dropWhile_eq_self_iff]
    intro hlen
    have hpre := List.rdropWhile_prefix isSpace (s.toList.dropWhile isSpace)
    have hne : s.toList.dropWhile isSpace ≠ [] := by
      intro h
      rw [h] at hlen
      simp at hlen
    rw [hpre.getElem hlen, ← List.head_eq_getElem hne, List.head_dropWhile_not isSpace hne]
    simp
  rw [hstart, List.rdropWhile_idempotent]

end Text

end PracticeForge
