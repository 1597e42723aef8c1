import Flowchart.Text.Blank
import Flowchart.Text.Split
import Mathlib.Data.List.Basic

/-!
# Texts between separators

What is left of a text when the characters at its ends are trimmed off (`trimBy_eq_self_iff` tells
when nothing changes), and which words a text has between separators: none is empty and none holds
a separator (`isRun_of_mem_runs`), and words that were joined by a separator are found again
(`runs_intercalate`).
-/

namespace Flowchart.Text

variable {p : Char → Bool} {cs : List Char}

/-! ## Trimming -/

/-- A text whose first and last characters may stand at an end. -/
structure Trimmed (p : Char → Bool) (cs : List Char) : Prop where
  head : ∀ c ∈ cs.head?, p c = false
  last : ∀ c ∈ cs.getLast?, p c = false

theorem dropWhile_eq_self (h : ∀ c ∈ cs.head?, p c = false) : cs.dropWhile p = cs := by
  cases cs with
  | nil => rfl
  | cons c cs => rw [List.dropWhile_cons_of_neg (by simp [h c rfl])]

theorem head?_dropWhile {c : Char} (h : c ∈ (cs.dropWhile p).head?) : p c = false := by
  have hnot := List.head?_dropWhile_not p cs
  rw [Option.mem_def.mp h] at hnot
  exact hnot

theorem trimBy_prefix_dropWhile (p : Char → Bool) (cs : List Char) :
    trimBy p cs <+: cs.dropWhile p := by
  have hsuffix := List.dropWhile_suffix p (l := (cs.dropWhile p).reverse)
  simpa [trimBy] using List.reverse_prefix.mpr hsuffix

theorem mem_of_mem_trimBy {c : Char} (h : c ∈ trimBy p cs) : c ∈ cs :=
  (List.dropWhile_sublist p).subset ((trimBy_prefix_dropWhile p cs).subset h)

theorem trimmed_trimBy (p : Char → Bool) (cs : List Char) : Trimmed p (trimBy p cs) := by
  constructor
  · intro c hc
    obtain ⟨rest, hrest⟩ := trimBy_prefix_dropWhile p cs
    have hhead : c ∈ (cs.dropWhile p).head? := by
      rw [← hrest, List.head?_append, Option.mem_def.mp hc]
      rfl
    exact head?_dropWhile hhead
  · intro c hc
    rw [trimBy, List.getLast?_reverse] at hc
    exact head?_dropWhile hc

/-- Nothing is trimmed off exactly if neither end has to be. -/
theorem trimBy_eq_self_iff : trimBy p cs = cs ↔ Trimmed p cs := by
  constructor
  · intro h
    rw [← h]
    exact trimmed_trimBy p cs
  · intro h
    have hlast : ∀ c ∈ cs.reverse.head?, p c = false := by
      intro c hc
      rw [List.head?_reverse] at hc
      exact h.last c hc
    rw [trimBy, dropWhile_eq_self h.head, dropWhile_eq_self hlast, List.reverse_reverse]

/-! ## Pieces -/

/-- A text that is cut in two is the first part, the separator and the second part. -/
theorem eq_append_of_splitFirst? {sep : Char} {before after : List Char}
    (h : splitFirst? sep cs = some (before, after)) : cs = before ++ sep :: after := by
  unfold splitFirst? at h
  split at h
  · contradiction
  · next x rest hrest =>
    obtain ⟨rfl, rfl⟩ : cs.takeWhile (· != sep) = before ∧ rest = after := by simpa using h
    have hx : x = sep := by
      have hhead := List.head?_dropWhile_not (· != sep) cs
      rw [hrest] at hhead
      simpa using hhead
    rw [← hx, ← hrest, hx, List.takeWhile_append_dropWhile]

/-- Up to its first separator a text is the first of its pieces. -/
theorem head?_splitOn (sep : Char) (cs : List Char) :
    (cs.splitOn sep).head? = some (cs.takeWhile (· != sep)) := by
  induction cs with
  | nil => rfl
  | cons c cs ih =>
    rw [List.splitOn_cons_eq_if_modifyHead]
    by_cases hc : c = sep
    · simp [hc]
    · simp [hc, ih]

/-- A piece of a text that is cut at separators is made of characters that are none. -/
theorem of_mem_splitOnP {piece : List Char} (h : piece ∈ cs.splitOnP p) :
    ∀ c ∈ piece, c ∈ cs ∧ p c = false := by
  induction cs generalizing piece with
  | nil =>
    obtain rfl : piece = [] := by simpa using h
    exact nofun
  | cons d cs ih =>
    have hlater : ∀ c ∈ cs, p c = false → c ∈ d :: cs ∧ p c = false :=
      fun c hc hp => ⟨List.mem_cons_of_mem d hc, hp⟩
    rw [List.splitOnP_cons_eq_if_modifyHead] at h
    split at h
    · rcases List.mem_cons.mp h with rfl | h
      · exact nofun
      · exact fun c hc => (ih h c hc).elim (hlater c)
    · next hd =>
      obtain ⟨first, rest, hpieces⟩ := List.exists_cons_of_ne_nil (List.splitOnP_ne_nil p cs)
      rw [hpieces] at h ih
      rcases List.mem_cons.mp h with rfl | h
      · intro c hc
        rcases List.mem_cons.mp hc with rfl | hc
        · exact ⟨List.mem_cons_self, by simpa using hd⟩
        · exact (ih List.mem_cons_self c hc).elim (hlater c)
      · exact fun c hc => (ih (List.mem_cons_of_mem first h) c hc).elim (hlater c)

/-! ## Words -/

/-- A row of characters that could be a word between separators. -/
structure IsRun (p : Char → Bool) (word : List Char) : Prop where
  ne_nil : word ≠ []
  free : ∀ c ∈ word, p c = false

theorem isRun_of_mem_runs {word : List Char} (h : word ∈ runs p cs) : IsRun p word := by
  obtain ⟨hmem, hne⟩ := List.mem_filter.mp h
  exact ⟨by simpa using hne, fun c hc => (of_mem_splitOnP hmem c hc).2⟩

theorem mem_of_mem_runs {word : List Char} (h : word ∈ runs p cs) {c : Char} (hc : c ∈ word) :
    c ∈ cs :=
  (of_mem_splitOnP (List.mem_filter.mp h).1 c hc).1

theorem runs_nil : runs p [] = [] := by
  simp [runs]

theorem runs_append_cons {sep : Char} (hsep : p sep) (before after : List Char) :
    runs p (before ++ sep :: after) = runs p before ++ runs p after := by
  unfold runs
  rw [List.splitOnP_append_cons before after hsep, List.filter_append]

theorem IsRun.runs_eq {word : List Char} (h : IsRun p word) : runs p word = [word] := by
  simp [runs, List.splitOnP_eq_singleton h.free, h.ne_nil]

/-- Words that are joined by a separator are the words of the joined text. -/
theorem runs_intercalate {sep : Char} (hsep : p sep) {words : List (List Char)}
    (h : ∀ word ∈ words, IsRun p word) : runs p ([sep].intercalate words) = words := by
  induction words with
  | nil => exact runs_nil
  | cons word words ih =>
    have hword := (h word List.mem_cons_self).runs_eq
    have hwords := ih fun w hw => h w (List.mem_cons_of_mem _ hw)
    cases words with
    | nil => simpa using hword
    | cons next words =>
      rw [List.intercalate_cons_cons, List.append_assoc, List.singleton_append,
        runs_append_cons hsep, hword, hwords]
      rfl

/-! ## Joined words -/

theorem mem_intercalate {sep c : Char} {words : List (List Char)}
    (h : c ∈ [sep].intercalate words) : c = sep ∨ ∃ word ∈ words, c ∈ word := by
  induction words with
  | nil => simp at h
  | cons word words ih =>
    cases words with
    | nil => exact .inr ⟨word, List.mem_cons_self, by simpa using h⟩
    | cons next words =>
      rw [List.intercalate_cons_cons, List.append_assoc] at h
      rcases List.mem_append.mp h with h | h
      · exact .inr ⟨word, List.mem_cons_self, h⟩
      · rcases List.mem_cons.mp h with h | h
        · exact .inl h
        · obtain h | ⟨w, hw, hc⟩ := ih h
          · exact .inl h
          · exact .inr ⟨w, List.mem_cons_of_mem _ hw, hc⟩

/-- No separator begins or ends the text, and no two of them stand together. -/
structure WellSeparated (sep : Char) (cs : List Char) : Prop where
  head : cs.head? ≠ some sep
  last : cs.getLast? ≠ some sep
  single : ¬ [sep, sep] <:+: cs

/-- A separator that is in none of these places has a piece of the text on either side. -/
theorem wellSeparated_of_splitOn {sep : Char} (h : [] ∉ cs.splitOn sep) : WellSeparated sep cs := by
  have hcut : ∀ before after : List Char, cs = before ++ sep :: after →
      [] ∉ before.splitOn sep ∧ [] ∉ after.splitOn sep := by
    rintro before after rfl
    rw [List.splitOn_append_cons_self] at h
    exact not_or.mp (mt List.mem_append.mpr h)
  have hnil : [] ∈ ([] : List Char).splitOn sep := List.mem_singleton_self []
  constructor
  · intro hhead
    obtain ⟨rest, hrest⟩ := List.head?_eq_some_iff.mp hhead
    exact (hcut [] rest hrest).1 hnil
  · intro hlast
    obtain ⟨rest, hrest⟩ := List.getLast?_eq_some_iff.mp hlast
    exact (hcut rest [] hrest).2 hnil
  · rintro ⟨before, after, hdouble⟩
    have hsecond := (hcut before (sep :: after) (by simp [← hdouble])).2
    rw [List.splitOn_cons_eq_if_modifyHead] at hsecond
    simp at hsecond

theorem wellSeparated_intercalate {sep : Char} {words : List (List Char)}
    (h : ∀ word ∈ words, word ≠ [] ∧ sep ∉ word) : WellSeparated sep ([sep].intercalate words) := by
  by_cases hwords : words = []
  · subst hwords
    constructor <;> simp
  · apply wellSeparated_of_splitOn
    rw [List.splitOn_intercalate sep (fun word hword => (h word hword).2) hwords]
    intro hmem
    exact (h [] hmem).1 rfl

end Flowchart.Text
