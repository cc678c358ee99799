import PracticeForge.Proofs.Basic
import PracticeForge.Spec.Patch

/-!
# Proofs/Spec/Encode — a draft read back from its JSON form

A draft is merged with new values by writing them over its JSON form and reading the result
back with the lenient schema checks.  This module shows that the round trip is exact: the
JSON form of any draft reads back as the draft itself (`SpecDraft.check_toJson`), and writing
clean values whose kind fits their field reads back as the draft with those fields replaced
(`SpecDraft.merge_encode`).  Later proofs never look inside the JSON again.
-/

namespace PracticeForge

open Schema

/-! ## The schema checks on the values they accept -/

namespace Schema

@[simp] theorem at_ok {α : Type} (s : Step) (a : α) : at_ s (.ok a) = .ok a := rfl

theorem field_of_lookup {α : Type} {fs : List (String × Json)} {name : String} {v : Json}
    (check : Json → Checked α) (dflt : Option α) (h : Json.lookup fs name = some v) :
    field fs name check dflt = at_ (.key name) (check v) := by
  simp [field, h]

@[simp] theorem int_int (n : Int) : int (.int n) = .ok n := rfl

@[simp] theorem str_str (s : String) : str (.str s) = .ok s := rfl

@[simp] theorem nullable_null {α : Type} (check : Json → Checked α) : nullable check .null = .ok none :=
  rfl

theorem literal_str {choices : List String} {s : String} (h : s ∈ choices) :
    literal choices (.str s) = .ok s := by
  simp [literal, h]

/-- Checking items that each read back as themselves finds no fault and keeps them all. -/
theorem items_go_map {α : Type} (check : Json → Checked α) (g : α → Json)
    (hg : ∀ a, check (g a) = .ok a) (i : Nat) (xs : List α) :
    items.go check i (xs.map g) = (xs, []) := by
  induction xs generalizing i with
  | nil => rfl
  | cons x xs ih => simp [items.go, ih, hg]

theorem list_map {α : Type} (check : Json → Checked α) (g : α → Json)
    (hg : ∀ a, check (g a) = .ok a) (xs : List α) : list check (.arr (xs.map g)) = .ok xs := by
  simp [list, items, items_go_map check g hg]

end Schema

/-! ## Identifiers read back -/

@[simp] theorem Language.ofId?_id (l : Language) : Language.ofId? l.id = some l := by
  cases l <;> rfl

@[simp] theorem Difficulty.ofId?_id (d : Difficulty) : Difficulty.ofId? d.id = some d := by
  cases d <;> rfl

@[simp] theorem Style.ofId?_id (s : Style) : Style.ofId? s.id = some s := by
  cases s <;> rfl

theorem Language.id_mem (l : Language) : l.id ∈ Language.all.map (·.id) := by
  cases l <;> decide

theorem Difficulty.id_mem (d : Difficulty) : d.id ∈ Difficulty.all.map (·.id) := by
  cases d <;> decide

theorem Style.id_mem (s : Style) : s.id ∈ Style.all.map (·.id) := by
  cases s <;> decide

/-- An entry of a plan reads back as itself. -/
@[simp] theorem DifficultyCount.check_toJson (d : DifficultyCount) :
    DifficultyCount.check d.toJson = .ok d := by
  obtain ⟨d, c, h⟩ := d
  have hc : ¬ ((c : Int) < 1) := by omega
  simp [DifficultyCount.check, DifficultyCount.toJson, entries, field, Json.lookup,
    literal_str (Difficulty.id_mem d), intAtLeast, hc, h, bind, Except.bind, pure, Except.pure]

/-! ## A draft read back from its JSON form -/

namespace SpecDraft

/-- The entries of a draft's JSON form, one per field in spec order. -/
def fields (s : SpecDraft) : List (String × Json) :=
  match s.toJson with
  | .obj fs => fs
  | _ => []

theorem toJson_eq (s : SpecDraft) : s.toJson = .obj s.fields := rfl

variable (s : SpecDraft)

theorem field_language :
    field s.fields "language" (nullable (literal (Language.all.map (·.id)))) (some none) =
      .ok (s.language.map (·.id)) := by
  cases h : s.language <;>
    simp [fields, toJson, field, Json.lookup, h, nullable, literal_str (Language.id_mem _)]
  rfl

theorem field_problemCount :
    field s.fields "problem_count" (nullable int) (some none) = .ok s.problemCount := by
  cases h : s.problemCount <;> simp [fields, toJson, field, Json.lookup, h, Json.ofIntOpt]
  rfl

theorem field_difficultyPlan :
    field s.fields "difficulty_plan" (nullable (list DifficultyCount.check)) (some none) =
      .ok s.difficultyPlan := by
  cases h : s.difficultyPlan <;> simp [fields, toJson, field, Json.lookup, h]
  simp [nullable, list_map DifficultyCount.check DifficultyCount.toJson DifficultyCount.check_toJson]
  rfl

theorem field_topicTags :
    field s.fields "topic_tags" (nullable (list str)) (some none) = .ok s.topicTags := by
  cases h : s.topicTags <;> simp [fields, toJson, field, Json.lookup, h]
  simp [Json.ofStrs, nullable, list_map str Json.str str_str]
  rfl

theorem field_problemStyle :
    field s.fields "problem_style" (nullable (literal (Style.all.map (·.id)))) (some none) =
      .ok (s.problemStyle.map (·.id)) := by
  cases h : s.problemStyle <;>
    simp [fields, toJson, field, Json.lookup, h, nullable, literal_str (Style.id_mem _)]
  rfl

theorem field_constraints :
    field s.fields "constraints" (nullable str) (some none) = .ok s.constraints := by
  cases h : s.constraints <;> simp [fields, toJson, field, Json.lookup, h, Json.ofStrOpt]
  rfl

theorem field_generationFocus :
    field s.fields "generation_focus" (nullable str) (some none) = .ok s.generationFocus := by
  cases h : s.generationFocus <;> simp [fields, toJson, field, Json.lookup, h, Json.ofStrOpt]
  rfl

/-- **The round trip.**  The JSON form of a draft reads back as the draft. -/
theorem check_toJson : check s.toJson = .ok s := by
  have hl : (s.language.map (·.id)).bind Language.ofId? = s.language := by
    cases s.language <;> simp
  have hs : (s.problemStyle.map (·.id)).bind Style.ofId? = s.problemStyle := by
    cases s.problemStyle <;> simp
  rw [toJson_eq, check]
  simp only [entries, bind, Except.bind, field_language, field_problemCount, field_difficultyPlan,
    field_topicTags, field_problemStyle, field_constraints, field_generationFocus, hl, hs, pure,
    Except.pure]

end SpecDraft

/-! ## Writing clean values -/

/-- Whether a clean value is of the kind its field holds. -/
def SpecValue.fits : SpecField → SpecValue → Bool
  | .language, .language _ | .problemCount, .count _ | .difficultyPlan, .plan _
  | .topicTags, .tags _ | .problemStyle, .style _ | .constraints, .text _
  | .generationFocus, .text _ => true
  | _, _ => false

namespace SpecDraft

/-- The draft with a clean value in its field; a value of another kind changes nothing. -/
def write (s : SpecDraft) : SpecField → SpecValue → SpecDraft
  | .language, .language l => { s with language := some l }
  | .problemCount, .count n => { s with problemCount := some (n : Int) }
  | .difficultyPlan, .plan p => { s with difficultyPlan := some p }
  | .topicTags, .tags t => { s with topicTags := some t }
  | .problemStyle, .style st => { s with problemStyle := some st }
  | .constraints, .text c => { s with constraints := some c }
  | .generationFocus, .text c => { s with generationFocus := some c }
  | _, _ => s

/-- The draft with clean values written in order. -/
def writeAll (s : SpecDraft) (vals : List (SpecField × SpecValue)) : SpecDraft :=
  vals.foldl (fun s e => s.write e.1 e.2) s

/-- The JSON entries of clean values, keyed by field name. -/
def encode (vals : List (SpecField × SpecValue)) : List (String × Json) :=
  vals.map fun e => (e.1.name, e.2.toJson)

@[simp] theorem encode_nil : encode [] = [] := rfl

theorem encode_append (vals vals' : List (SpecField × SpecValue)) :
    encode (vals ++ vals') = encode vals ++ encode vals' := List.map_append

variable (s : SpecDraft)

/-- Writing a value's JSON form over its field's entry is the entry list of the draft with the
value written. -/
theorem setEntry_fields {f : SpecField} {v : SpecValue} (h : v.fits f) :
    Json.setEntry s.fields f.name v.toJson = (s.write f v).fields := by
  cases f <;> cases v <;> simp [SpecValue.fits] at h <;>
    simp [Json.setEntry, fields, toJson, write, SpecField.name, SpecValue.toJson] <;> rfl

theorem foldl_setEntry_encode (vals : List (SpecField × SpecValue)) (h : ∀ e ∈ vals, e.2.fits e.1) :
    (encode vals).foldl (fun acc e => Json.setEntry acc e.1 e.2) s.fields = (s.writeAll vals).fields := by
  induction vals generalizing s with
  | nil => rfl
  | cons e vals ih =>
    simp only [encode, List.map_cons, List.foldl_cons, writeAll] at ih ⊢
    rw [setEntry_fields s (h e (by simp))]
    exact ih _ fun e' he' => h e' (by simp [he'])

/-- **Merging clean values.**  Values of the right kinds, merged into a draft, read back as the
draft with them written. -/
theorem merge_encode (vals : List (SpecField × SpecValue)) (h : ∀ e ∈ vals, e.2.fits e.1) :
    s.merge (encode vals) = .ok (s.writeAll vals) := by
  rw [merge, toJson_eq]
  simp only
  rw [foldl_setEntry_encode s vals h, ← toJson_eq, check_toJson]

end SpecDraft

end PracticeForge
