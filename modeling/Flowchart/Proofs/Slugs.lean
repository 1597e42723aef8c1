import Flowchart.Proofs.Folding
import Flowchart.Proofs.Separated
import Flowchart.Text.Slug

/-!
# Slugs

A slug is made of words of settled word characters, and they are joined by single hyphens. The
main statement is `slugify_slugify`, by which it is its own slug.
-/

namespace Flowchart.Text

/-- A word of a slug: word characters that folding leaves as they are. -/
structure SlugWord (word : List Char) : Prop where
  ne_nil : word ≠ []
  isWord : ∀ c ∈ word, isWord c = true
  settled : ∀ c ∈ word, Settled c

theorem Settled.not_mark {c : Char} (h : Settled c) : isMark c = false := by
  rw [Bool.eq_false_iff]
  intro hmark
  have hbase := h.base
  rw [baseOf, if_pos hmark] at hbase
  exact absurd hbase List.ne_cons_self

theorem SlugWord.isRun {word : List Char} (h : SlugWord word) :
    IsRun (fun c => !Text.isWord c) word :=
  ⟨h.ne_nil, fun c hc => by simp [h.isWord c hc]⟩

theorem slugWord_of_mem {text : String} {word : List Char} (h : word ∈ slugWords text) :
    SlugWord word := by
  have hrun := isRun_of_mem_runs h
  constructor
  · exact hrun.ne_nil
  · exact fun c hc => by simpa using hrun.free c hc
  · exact fun c hc => settled_of_mem_folded (mem_of_mem_runs h hc)

theorem SlugWord.hyphen_not_mem {word : List Char} (h : SlugWord word) : '-' ∉ word := by
  intro hmem
  exact absurd (h.isWord '-' hmem) (by decide)

theorem settled_hyphen : Settled '-' :=
  ⟨fun _ _ => rfl, by decide⟩

/-- Words that are joined by hyphens are the words of the joined text. -/
theorem slugWords_intercalate {words : List (List Char)} (h : ∀ word ∈ words, SlugWord word) :
    slugWords (String.ofList (['-'].intercalate words)) = words := by
  have hsettled : ∀ c ∈ ['-'].intercalate words, Settled c := by
    intro c hc
    rcases mem_intercalate hc with rfl | ⟨word, hword, hc⟩
    · exact settled_hyphen
    · exact (h word hword).settled c hc
  have hhyphen : (!isWord '-') = true := by decide
  rw [slugWords, String.toList_ofList, folded_eq_self hsettled]
  exact runs_intercalate hhyphen fun word hword => (h word hword).isRun

theorem toList_slugify (text : String) :
    (slugify text).toList = ['-'].intercalate (slugWords text) :=
  String.toList_ofList

/-- The texts that are their own slugs. -/
theorem slugify_eq_self_iff {text : String} :
    slugify text = text ↔ ∃ words : List (List Char), text.toList = ['-'].intercalate words ∧
      ∀ word ∈ words, SlugWord word := by
  constructor
  · intro h
    refine ⟨slugWords text, ?_, fun word => slugWord_of_mem⟩
    rw [← toList_slugify, h]
  · rintro ⟨words, htext, hwords⟩
    have hjoined : text = String.ofList (['-'].intercalate words) := by
      rw [← htext, String.ofList_toList]
    apply String.toList_injective
    rw [toList_slugify, htext, hjoined, slugWords_intercalate hwords]

/-- A slug is made of words that are joined by single hyphens, and it is its own slug. So is every
text of such words whose characters are settled, and no other. -/
theorem slugify_slugify (text : String) :
    (∃ words : List (List Char), (slugify text).toList = ['-'].intercalate words ∧
      ∀ word ∈ words, word ≠ [] ∧ ∀ c ∈ word, isWord c = true ∧ isMark c = false) ∧
    WellSeparated '-' (slugify text).toList ∧
    slugify (slugify text) = slugify text ∧
    (slugify text = text ↔ ∃ words : List (List Char), text.toList = ['-'].intercalate words ∧
      ∀ word ∈ words, SlugWord word) := by
  have hwords : ∀ word ∈ slugWords text, SlugWord word := fun word => slugWord_of_mem
  have htext := toList_slugify text
  refine ⟨⟨slugWords text, htext, fun word hword => ?_⟩, ?_, ?_, slugify_eq_self_iff⟩
  · have hslug := hwords word hword
    exact ⟨hslug.ne_nil, fun c hc => ⟨hslug.isWord c hc, (hslug.settled c hc).not_mark⟩⟩
  · rw [htext]
    exact wellSeparated_intercalate fun word hword =>
      ⟨(hwords word hword).ne_nil, (hwords word hword).hyphen_not_mem⟩
  · exact slugify_eq_self_iff.mpr ⟨slugWords text, htext, hwords⟩

/-- A final sigma, a dotted capital I and a decomposed accent. -/
example : slugify "ΟΔΟΣ -- İs e\u0301té!" = "οδος-is-ete" := by
  decide +kernel

end Flowchart.Text
