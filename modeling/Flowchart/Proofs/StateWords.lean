import Flowchart.Proofs.Separated
import Flowchart.Text.Slug
import Mathlib.Data.List.TakeWhile

/-!
# Identifiers of states

The identifier of a state is made of the words of its name. Two texts have the same words exactly if
they differ in the blanks at their ends and in which blanks stand between two words
(`runs_eq_iff_respaced`).

The main statement is `stateNodeId_stateNodeId`: an identifier is a text without blanks, these are
their own identifiers, and names that differ in such blanks only have the same one. Names without
underscores have the same identifier in no other case (`stateNodeId_eq_iff_respaced`).
-/

namespace Flowchart.Text

variable {p : Char → Bool} {cs ds : List Char}

/-! ## Texts without words -/

/-- The words of a text hold all its characters but the separators. -/
theorem flatten_runs (p : Char → Bool) (cs : List Char) :
    (runs p cs).flatten = cs.filter fun c => !p c := by
  rw [runs, List.flatten_filter_not_isEmpty]
  induction cs with
  | nil => rfl
  | cons c cs ih =>
    rw [List.splitOnP_cons_eq_if_modifyHead]
    split
    · next hc => simp [hc, ih]
    · next hc =>
      obtain ⟨first, rest, hpieces⟩ := List.exists_cons_of_ne_nil (List.splitOnP_ne_nil p cs)
      rw [hpieces] at ih ⊢
      simp [hc, ← ih]

theorem runs_eq_nil_iff : runs p cs = [] ↔ ∀ c ∈ cs, p c = true := by
  have hflat : cs.filter (fun c => !p c) = [] ↔ ∀ c ∈ cs, p c = true := by
    simp [List.filter_eq_nil_iff]
  rw [← hflat, ← flatten_runs, List.flatten_eq_nil_iff]
  constructor
  · intro h
    simp [h]
  · intro h
    refine List.eq_nil_iff_forall_not_mem.mpr fun word hword => ?_
    exact (isRun_of_mem_runs hword).ne_nil (h word hword)

theorem intercalate_eq_nil_iff {sep : Char} {words : List (List Char)}
    (h : ∀ word ∈ words, word ≠ []) : [sep].intercalate words = [] ↔ words = [] := by
  cases words with
  | nil => simp
  | cons word words =>
    have hword : word ≠ [] := h word List.mem_cons_self
    cases words with
    | nil => simpa using hword
    | cons next words => simp [List.intercalate_cons_cons]

/-! ## Texts with the same words -/

/-- Two texts that differ in separators only: in those at the ends, or in which ones stand at a
place where there are some. -/
inductive Respaced (p : Char → Bool) : List Char → List Char → Prop where
  | start {lead lead' : List Char} (h : ∀ c ∈ lead, p c = true) (h' : ∀ c ∈ lead', p c = true)
      (text : List Char) : Respaced p (lead ++ text) (lead' ++ text)
  | finish {trail trail' : List Char} (text : List Char) (h : ∀ c ∈ trail, p c = true)
      (h' : ∀ c ∈ trail', p c = true) : Respaced p (text ++ trail) (text ++ trail')
  | between {gap gap' : List Char} (before : List Char) (hne : gap ≠ []) (hne' : gap' ≠ [])
      (h : ∀ c ∈ gap, p c = true) (h' : ∀ c ∈ gap', p c = true) (after : List Char) :
      Respaced p (before ++ gap ++ after) (before ++ gap' ++ after)
  | trans {cs ds es : List Char} (h : Respaced p cs ds) (h' : Respaced p ds es) : Respaced p cs es

theorem Respaced.symm (h : Respaced p cs ds) : Respaced p ds cs := by
  induction h with
  | start h h' text => exact .start h' h text
  | finish text h h' => exact .finish text h' h
  | between before hne hne' h h' after => exact .between before hne' hne h' h after
  | trans _ _ ih ih' => exact .trans ih' ih

/-- A change at the beginning of a text is a change between two words where a word and a separator
go before. -/
theorem Respaced.after (h : Respaced p cs ds) (before : List Char) {sep : Char} (hsep : p sep) :
    Respaced p (before ++ sep :: cs) (before ++ sep :: ds) := by
  induction h with
  | @start lead lead' h h' text =>
    have hgap := Respaced.between (p := p) before (List.cons_ne_nil sep lead)
      (List.cons_ne_nil sep lead') (List.forall_mem_cons.mpr ⟨hsep, h⟩)
      (List.forall_mem_cons.mpr ⟨hsep, h'⟩) text
    simpa using hgap
  | finish text h h' => simpa using Respaced.finish (before ++ sep :: text) h h'
  | between text hne hne' h h' after =>
    simpa using Respaced.between (before ++ sep :: text) hne hne' h h' after
  | trans _ _ ih ih' => exact .trans ih ih'

theorem runs_append_of_forall {lead : List Char} (h : ∀ c ∈ lead, p c = true) (text : List Char) :
    runs p (lead ++ text) = runs p text := by
  induction lead with
  | nil => rfl
  | cons c lead ih =>
    obtain ⟨hc, hlead⟩ := List.forall_mem_cons.mp h
    have hcut := runs_append_cons hc [] (lead ++ text)
    rw [runs_nil, List.nil_append, List.nil_append] at hcut
    rw [List.cons_append, hcut, ih hlead]

/-- Wherever there are separators, a text falls into two. -/
theorem runs_append_append {gap : List Char} (hne : gap ≠ []) (h : ∀ c ∈ gap, p c = true)
    (before after : List Char) :
    runs p (before ++ gap ++ after) = runs p before ++ runs p after := by
  cases gap with
  | nil => exact absurd rfl hne
  | cons c gap =>
    obtain ⟨hc, hgap⟩ := List.forall_mem_cons.mp h
    rw [List.append_assoc, List.cons_append, runs_append_cons hc, runs_append_of_forall hgap]

theorem Respaced.runs_eq (h : Respaced p cs ds) : runs p cs = runs p ds := by
  have hends {trail : List Char} (text : List Char) (h : ∀ c ∈ trail, p c = true) :
      runs p (text ++ trail) = runs p text := by
    by_cases hne : trail = []
    · rw [hne, List.append_nil]
    · have hcut := runs_append_append hne h text []
      rwa [List.append_nil, runs_nil, List.append_nil] at hcut
  induction h with
  | start h h' text => rw [runs_append_of_forall h, runs_append_of_forall h']
  | finish text h h' => rw [hends text h, hends text h']
  | between before hne hne' h h' after =>
    rw [runs_append_append hne h, runs_append_append hne' h']
  | trans _ _ ih ih' => exact ih.trans ih'

/-- A text is nothing but separators, or its first word stands between some separators and the end
or one more. -/
theorem exists_first_run (p : Char → Bool) (cs : List Char) : (∀ c ∈ cs, p c = true) ∨
    ∃ lead word rest, cs = lead ++ (word ++ rest) ∧ (∀ c ∈ lead, p c = true) ∧ IsRun p word ∧
      ∀ c ∈ rest.head?, p c = true := by
  have hcs : cs = cs.takeWhile p ++ cs.dropWhile p := List.takeWhile_append_dropWhile.symm
  have hlead : ∀ c ∈ cs.takeWhile p, p c = true := fun c => List.mem_takeWhile_imp
  cases htail : cs.dropWhile p with
  | nil =>
    rw [htail, List.append_nil] at hcs
    exact .inl (hcs ▸ hlead)
  | cons d tail =>
    have hhead : (cs.dropWhile p).head? = some d := by
      rw [htail]
      rfl
    have hd : p d = false := head?_dropWhile hhead
    refine .inr ⟨cs.takeWhile p, (d :: tail).takeWhile (!p ·), (d :: tail).dropWhile (!p ·), ?_,
      hlead, ⟨?_, fun c hc => ?_⟩, fun c hc => ?_⟩
    · rw [List.takeWhile_append_dropWhile, ← htail, ← hcs]
    · rw [List.takeWhile_cons_of_pos (by simp [hd])]
      exact List.cons_ne_nil d _
    · simpa using List.mem_takeWhile_imp hc
    · simpa using head?_dropWhile hc

/-- Every text can be respaced to its words with one separator between each two. -/
theorem respaced_intercalate {sep : Char} (hsep : p sep) (cs : List Char) :
    Respaced p cs ([sep].intercalate (runs p cs)) := by
  have hnil : ∀ c ∈ ([] : List Char), p c = true := nofun
  induction hlength : cs.length using Nat.strongRecOn generalizing cs with
  | _ n ih =>
    obtain hall | ⟨lead, word, rest, rfl, hlead, hword, hrest⟩ := exists_first_run p cs
    · rw [runs_eq_nil_iff.mpr hall]
      simpa using Respaced.finish [] hall hnil
    have hfirst : Respaced p (lead ++ (word ++ rest)) (word ++ rest) :=
      .start hlead hnil (word ++ rest)
    refine hfirst.trans ?_
    rw [hfirst.runs_eq]
    cases rest with
    | nil =>
      rw [List.append_nil, hword.runs_eq, List.intercalate_singleton]
      simpa using Respaced.finish word hnil hnil
    | cons c rest =>
      have hc : p c = true := hrest c rfl
      have hlt : rest.length < n := by
        rw [← hlength]
        simp
        omega
      rw [runs_append_cons hc, hword.runs_eq, List.singleton_append]
      cases hwords : runs p rest with
      | nil =>
        -- Only separators follow the last word.
        have htrail : ∀ d ∈ c :: rest, p d = true :=
          List.forall_mem_cons.mpr ⟨hc, runs_eq_nil_iff.mp hwords⟩
        rw [List.intercalate_singleton]
        simpa using Respaced.finish word htrail hnil
      | cons next words =>
        have hgap : Respaced p (word ++ c :: rest) (word ++ sep :: rest) := by
          simpa using Respaced.between (p := p) word (List.cons_ne_nil c [])
            (List.cons_ne_nil sep []) (by simpa using hc) (by simpa using hsep) rest
        have hlater := (ih rest.length hlt rest rfl).after word hsep
        rw [hwords] at hlater
        rw [List.intercalate_cons_cons, List.append_assoc, List.singleton_append]
        exact hgap.trans hlater

/-- Texts have the same words exactly if they differ in separators only. -/
theorem runs_eq_iff_respaced {sep : Char} (hsep : p sep) :
    runs p cs = runs p ds ↔ Respaced p cs ds := by
  constructor
  · intro h
    have hcs := respaced_intercalate hsep cs
    rw [h] at hcs
    exact hcs.trans (respaced_intercalate hsep ds).symm
  · exact Respaced.runs_eq

/-! ## Identifiers -/

theorem toList_stateNodeId (key : String) :
    (stateNodeId key).toList = ['_'].intercalate (stateWords key) :=
  String.toList_ofList

theorem isBlank_of_mem_stateNodeId {key : String} {c : Char} (h : c ∈ (stateNodeId key).toList) :
    isBlank c = false := by
  rw [toList_stateNodeId] at h
  obtain rfl | ⟨word, hword, hc⟩ := mem_intercalate h
  · decide
  · exact (isRun_of_mem_runs hword).free c hc

theorem stateNodeId_eq_empty_iff {key : String} :
    stateNodeId key = "" ↔ ∀ c ∈ key.toList, isBlank c = true := by
  rw [← runs_eq_nil_iff, stateNodeId, String.ofList_eq_empty_iff]
  exact intercalate_eq_nil_iff fun word hword => (isRun_of_mem_runs hword).ne_nil

/-- The texts that are their own identifiers. -/
theorem stateNodeId_eq_self_iff {key : String} :
    stateNodeId key = key ↔ ∀ c ∈ key.toList, isBlank c = false := by
  constructor
  · intro h c hc
    rw [← h] at hc
    exact isBlank_of_mem_stateNodeId hc
  · intro h
    apply String.toList_injective
    rw [toList_stateNodeId, stateWords]
    by_cases hkey : key.toList = []
    · rw [hkey, runs_nil]
      rfl
    · rw [IsRun.runs_eq ⟨hkey, h⟩, List.intercalate_singleton]

/-- An identifier has no blanks, and it is empty exactly if there is nothing but blanks in the name.
It is its own identifier; so is every text without blanks, and no other. Names that differ only in
the blanks at their ends, and in which blanks stand between two words, have the same identifier. -/
theorem stateNodeId_stateNodeId (key : String) :
    (∀ c ∈ (stateNodeId key).toList, isBlank c = false) ∧
    (stateNodeId key = "" ↔ ∀ c ∈ key.toList, isBlank c = true) ∧
    stateNodeId (stateNodeId key) = stateNodeId key ∧
    (stateNodeId key = key ↔ ∀ c ∈ key.toList, isBlank c = false) ∧
    ∀ other : String, Respaced isBlank key.toList other.toList →
      stateNodeId other = stateNodeId key := by
  have hfree : ∀ c ∈ (stateNodeId key).toList, isBlank c = false :=
    fun c => isBlank_of_mem_stateNodeId
  refine ⟨hfree, stateNodeId_eq_empty_iff, stateNodeId_eq_self_iff.mpr hfree,
    stateNodeId_eq_self_iff, fun other h => ?_⟩
  rw [stateNodeId, stateWords, ← h.runs_eq]
  rfl

/-- A space, and on the other hand blanks at the ends and a tab with a wide space. -/
theorem stateNodeId_inReview :
    Respaced isBlank "in review".toList "\u00a0in\t\u3000review\n".toList ∧
      stateNodeId "\u00a0in\t\u3000review\n" = stateNodeId "in review" := by
  have hwords : runs isBlank "in review".toList
      = runs isBlank "\u00a0in\t\u3000review\n".toList := by
    decide +kernel
  have hblank : isBlank ' ' := by decide
  have hrespaced := (runs_eq_iff_respaced hblank).mp hwords
  obtain ⟨-, -, -, -, hsame⟩ := stateNodeId_stateNodeId "in review"
  exact ⟨hrespaced, hsame _ hrespaced⟩

/-- Names without underscores have the same identifier only if they differ in blanks only. -/
theorem stateNodeId_eq_iff_respaced {key other : String} (hkey : '_' ∉ key.toList)
    (hother : '_' ∉ other.toList) :
    stateNodeId key = stateNodeId other ↔ Respaced isBlank key.toList other.toList := by
  -- The words are found again between the underscores.
  have hread {key : String} (h : '_' ∉ key.toList) :
      runs (· == '_') (stateNodeId key).toList = stateWords key := by
    rw [toList_stateNodeId]
    refine runs_intercalate (by decide) fun word hword => ⟨(isRun_of_mem_runs hword).ne_nil, ?_⟩
    intro c hc
    rw [beq_eq_false_iff_ne]
    rintro rfl
    exact h (mem_of_mem_runs hword hc)
  have hblank : isBlank ' ' := by decide
  rw [← runs_eq_iff_respaced hblank]
  constructor
  · intro h
    show stateWords key = stateWords other
    rw [← hread hkey, ← hread hother, h]
  · intro h
    rw [stateNodeId, stateWords, h]
    rfl

/-- An underscore may as well have been in the name. -/
example : stateNodeId "in review" = stateNodeId "in_review" := by
  decide +kernel

end Flowchart.Text
