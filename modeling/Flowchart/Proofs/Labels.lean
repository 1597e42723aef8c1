import Flowchart.Proofs.Connectors

/-!
# Labels in brackets and between bars

A label is a text without delimiters as it is, or else one quoted string (`quoteLabel_cases`). A
reader who goes through the text of a node or of an edge, and skips what is quoted, thus meets the
delimiters of the diagram and none of the label (`bareDelimiters_quoteLabel_append`). Nothing of a
label is lost by this, unless it holds the very entity that quotes are written as
(`quoteLabel_inj`). The main statement is `quoteLabel_delimits`.
-/

namespace Flowchart.Text

/-- A text that holds no delimiter. -/
def Undelimited (cs : List Char) : Prop :=
  ∀ c ∈ cs, c ∉ delimiters

instance (cs : List Char) : Decidable (Undelimited cs) :=
  List.decidableBAll (fun c => c ∉ delimiters) cs

/-! ## The two forms of a label -/

theorem quote_not_mem_escape (cs : List Char) : '\x22' ∉ cs.flatMap escapeQuote := by
  intro h
  obtain ⟨c, -, hc⟩ := List.mem_flatMap.mp h
  unfold escapeQuote at hc
  split at hc
  · exact absurd hc (by decide)
  · next hne => exact hne (List.mem_singleton.mp hc).symm

/-- A label is a text without delimiters as it is, or else a quoted string. -/
theorem quoteLabel_cases (t : String) :
    Undelimited t.toList ∧ quoteLabel t = t ∨
      ¬ Undelimited t.toList ∧
        (quoteLabel t).toList = '\x22' :: (t.toList.flatMap escapeQuote ++ ['\x22']) := by
  unfold quoteLabel
  split
  · next h =>
    refine .inr ⟨fun hfree => ?_, by simp⟩
    obtain ⟨c, hc, hdelimiter⟩ := List.any_eq_true.mp h
    exact hfree c hc (of_decide_eq_true hdelimiter)
  · next h =>
    refine .inl ⟨fun c hc hdelimiter => h ?_, rfl⟩
    exact List.any_eq_true.mpr ⟨c, hc, decide_eq_true hdelimiter⟩

theorem quoteLabel_of_undelimited {t : String} (h : Undelimited t.toList) : quoteLabel t = t :=
  (quoteLabel_cases t).elim And.right fun hquoted => absurd h hquoted.1

theorem Undelimited.quote_not_mem {cs : List Char} (h : Undelimited cs) : '\x22' ∉ cs :=
  fun hmem => h _ hmem (by decide)

/-! ## Reading past what is quoted -/

/-- The characters outside of quoted strings, for a reader who is in one already or is not. -/
def outsideQuotes : Bool → List Char → List Char
  | _, [] => []
  | quoted, c :: cs =>
    if c = '\x22' then outsideQuotes (!quoted) cs
    else if quoted then outsideQuotes quoted cs
    else c :: outsideQuotes quoted cs

/-- The delimiters that a reader meets outside of quoted strings. -/
def bareDelimiters (cs : List Char) : List Char :=
  (outsideQuotes false cs).filter (· ∈ delimiters)

theorem outsideQuotes_append {cs : List Char} (h : '\x22' ∉ cs) (rest : List Char) :
    outsideQuotes false (cs ++ rest) = cs ++ outsideQuotes false rest := by
  induction cs with
  | nil => rfl
  | cons c cs ih =>
    obtain ⟨hc, hcs⟩ := not_or.mp (mt List.mem_cons.mpr h)
    rw [List.cons_append, outsideQuotes, if_neg (Ne.symm hc), if_neg Bool.false_ne_true, ih hcs,
      List.cons_append]

/-- A quoted string is passed over up to the quote at its end. -/
theorem outsideQuotes_quoted {body : List Char} (h : '\x22' ∉ body) (rest : List Char) :
    outsideQuotes true (body ++ '\x22' :: rest) = outsideQuotes false rest := by
  induction body with
  | nil => rfl
  | cons c body ih =>
    obtain ⟨hc, hbody⟩ := not_or.mp (mt List.mem_cons.mpr h)
    rw [List.cons_append, outsideQuotes, if_neg (Ne.symm hc), if_pos rfl, ih hbody]

theorem bareDelimiters_append {cs : List Char} (h : '\x22' ∉ cs) (rest : List Char) :
    bareDelimiters (cs ++ rest) = cs.filter (· ∈ delimiters) ++ bareDelimiters rest := by
  rw [bareDelimiters, outsideQuotes_append h, List.filter_append, bareDelimiters]

theorem bareDelimiters_of_not_mem {cs : List Char} (h : '\x22' ∉ cs) :
    bareDelimiters cs = cs.filter (· ∈ delimiters) := by
  have happend := bareDelimiters_append h []
  rwa [List.append_nil, show bareDelimiters [] = [] from rfl, List.append_nil] at happend

/-- No delimiter of a label is met, and the reader is outside of quotes after it. -/
theorem bareDelimiters_quoteLabel_append (t : String) (rest : List Char) :
    bareDelimiters ((quoteLabel t).toList ++ rest) = bareDelimiters rest := by
  rcases quoteLabel_cases t with ⟨hfree, hlabel⟩ | ⟨-, hlabel⟩
  · have hnone : t.toList.filter (· ∈ delimiters) = [] :=
      List.filter_eq_nil_iff.mpr fun c hc => by simpa using hfree c hc
    rw [hlabel, bareDelimiters_append hfree.quote_not_mem, hnone, List.nil_append]
  · rw [hlabel, List.cons_append, List.append_assoc]
    show (outsideQuotes true (t.toList.flatMap escapeQuote ++ '\x22' :: rest)).filter _ = _
    rw [outsideQuotes_quoted (quote_not_mem_escape _)]
    rfl

/-- A label between two texts without quotes shows the delimiters of these texts only. -/
theorem bareDelimiters_around {before after : List Char} (hbefore : '\x22' ∉ before)
    (hafter : '\x22' ∉ after) (t : String) :
    bareDelimiters (before ++ ((quoteLabel t).toList ++ after))
      = (before ++ after).filter (· ∈ delimiters) := by
  rw [bareDelimiters_append hbefore, bareDelimiters_quoteLabel_append,
    bareDelimiters_of_not_mem hafter, List.filter_append]

/-! ## Labels of different texts -/

/-- The first character of the entity for a quote. -/
def entityMark : Char := '#'

/-- The entity for a quote, without its first character. -/
def entityRest : List Char := ['q', 'u', 'o', 't', ';']

/-- What does not begin an entity can only be read off the text itself. -/
theorem prefix_of_prefix_escape {word cs : List Char} (hmark : entityMark ∉ word)
    (h : word <+: cs.flatMap escapeQuote) : word <+: cs := by
  induction word generalizing cs with
  | nil => exact List.nil_prefix
  | cons x word ih =>
    obtain ⟨hx, hword⟩ := not_or.mp (mt List.mem_cons.mpr hmark)
    cases cs with
    | nil => exact h
    | cons c cs =>
      rw [List.flatMap_cons] at h
      by_cases hc : c = '\x22'
      · subst hc
        exact absurd (List.cons_prefix_cons.mp h).1 (Ne.symm hx)
      · rw [escapeQuote, if_neg hc] at h
        obtain ⟨rfl, hrest⟩ := List.cons_prefix_cons.mp h
        exact List.cons_prefix_cons.mpr ⟨rfl, ih hword hrest⟩

/-- A text that begins like a quote as it is written holds the entity. -/
theorem entity_prefix_of_escape_eq {c : Char} {cs ds : List Char} (hc : c ≠ '\x22')
    (h : ('\x22' :: ds).flatMap escapeQuote = (c :: cs).flatMap escapeQuote) :
    quoteEntity <+: c :: cs := by
  rw [List.flatMap_cons, List.flatMap_cons, escapeQuote, escapeQuote, if_pos rfl, if_neg hc] at h
  obtain ⟨rfl, hrest⟩ := List.cons.inj h
  have hprefix : entityRest <+: cs.flatMap escapeQuote := ⟨_, hrest⟩
  exact List.cons_prefix_cons.mpr ⟨rfl, prefix_of_prefix_escape (by decide) hprefix⟩

/-- Texts that hold no entity are told apart by how they are written between quotes. -/
theorem escape_inj {cs ds : List Char} (hcs : ¬ quoteEntity <:+: cs) (hds : ¬ quoteEntity <:+: ds)
    (h : cs.flatMap escapeQuote = ds.flatMap escapeQuote) : cs = ds := by
  have hne (c : Char) : escapeQuote c ≠ [] := by
    unfold escapeQuote
    split <;> simp [quoteEntity]
  induction cs generalizing ds with
  | nil =>
    cases ds with
    | nil => rfl
    | cons d ds => exact absurd (List.append_eq_nil_iff.mp h.symm).1 (hne d)
  | cons c cs ih =>
    cases ds with
    | nil => exact absurd (List.append_eq_nil_iff.mp h).1 (hne c)
    | cons d ds =>
      have htails : ¬ quoteEntity <:+: cs ∧ ¬ quoteEntity <:+: ds :=
        ⟨fun hsub => hcs (hsub.trans (List.suffix_cons c cs).isInfix),
          fun hsub => hds (hsub.trans (List.suffix_cons d ds).isInfix)⟩
      by_cases hc : c = '\x22' <;> by_cases hd : d = '\x22'
      · subst hc hd
        rw [ih htails.1 htails.2 (List.append_cancel_left h)]
      · subst hc
        exact absurd (entity_prefix_of_escape_eq hd h).isInfix hds
      · subst hd
        exact absurd (entity_prefix_of_escape_eq hc h.symm).isInfix hcs
      · rw [List.flatMap_cons, List.flatMap_cons, escapeQuote, escapeQuote, if_neg hc,
          if_neg hd] at h
        obtain ⟨rfl, hrest⟩ := List.cons.inj h
        rw [ih htails.1 htails.2 hrest]

/-- Labels of texts that hold no entity are the same only if the texts are. -/
theorem quoteLabel_inj {t u : String} (ht : ¬ quoteEntity <:+: t.toList)
    (hu : ¬ quoteEntity <:+: u.toList) : quoteLabel t = quoteLabel u ↔ t = u := by
  refine ⟨fun h => ?_, congrArg quoteLabel⟩
  have hlists := congrArg String.toList h
  rcases quoteLabel_cases t with ⟨htfree, htlabel⟩ | ⟨-, htlabel⟩ <;>
    rcases quoteLabel_cases u with ⟨hufree, hulabel⟩ | ⟨-, hulabel⟩
  · rw [← htlabel, h, hulabel]
  · rw [htlabel, hulabel] at hlists
    exact absurd (hlists ▸ List.mem_cons_self) htfree.quote_not_mem
  · rw [htlabel, hulabel] at hlists
    exact absurd (hlists ▸ List.mem_cons_self) hufree.quote_not_mem
  · rw [htlabel, hulabel] at hlists
    have hbodies := List.append_cancel_right (List.cons.inj hlists).2
    exact String.toList_injective (escape_inj ht hu hbodies)

end Flowchart.Text

namespace Flowchart

open Text

/-! ## Nodes and edges -/

theorem Shape.quote_not_mem_brackets (s : Shape) :
    '\x22' ∉ s.opening.toList ∧ '\x22' ∉ s.closing.toList := by
  cases s <;> decide

/-- Of a node's text a reader meets no delimiter between the brackets. -/
theorem Shape.bareDelimiters_wrap (s : Shape) (t : String) :
    bareDelimiters (s.wrap (quoteLabel t)).toList
      = (s.opening ++ s.closing).toList.filter (· ∈ delimiters) := by
  obtain ⟨hopening, hclosing⟩ := s.quote_not_mem_brackets
  rw [wrap, String.toList_append, String.toList_append, List.append_assoc,
    bareDelimiters_around hopening hclosing, String.toList_append]

theorem LineStyle.not_mem_delimiters_of_isGlyph {c : Char} (h : isGlyph c = true) :
    c ∉ delimiters := by
  simp only [isGlyph, Bool.or_eq_true, beq_iff_eq] at h
  rcases h with (rfl | rfl) | rfl <;> decide

namespace Edge

theorem quote_not_mem_head (e : Edge) (x : End) : '\x22' ∉ e.head x := by
  rw [head_eq]
  cases (e.atEnd x).arrowhead? with
  | none => exact List.not_mem_nil
  | some a => cases a <;> cases x <;> decide

theorem quote_not_mem_connector (e : Edge) : '\x22' ∉ e.connector.toList := by
  rw [connector, String.toList_ofList]
  intro h
  rcases List.mem_append.mp h with h | h
  · rcases List.mem_append.mp h with h | h
    · exact e.quote_not_mem_head .source h
    · exact absurd (e.draws_body.isGlyph_of_mem h) (by decide)
  · exact e.quote_not_mem_head .target h

/-- The line of an edge has no delimiters but its arrowheads. -/
theorem filter_connector (e : Edge) :
    e.connector.toList.filter (· ∈ delimiters)
      = (e.head .source ++ e.head .target).filter (· ∈ delimiters) := by
  have hbody : e.body.filter (· ∈ delimiters) = [] := by
    refine List.filter_eq_nil_iff.mpr fun c hc => ?_
    have hnot := LineStyle.not_mem_delimiters_of_isGlyph (e.draws_body.isGlyph_of_mem hc)
    simpa using hnot
  rw [connector, String.toList_ofList, List.filter_append, List.filter_append, hbody,
    List.append_nil, List.filter_append]

/-- Between its nodes an edge shows its arrowheads and the bars around its label, and no delimiter
of the label. -/
theorem bareDelimiters_middle (e : Edge) :
    bareDelimiters e.middle.toList
      = (e.head .source ++ e.head .target).filter (· ∈ delimiters)
        ++ if e.label.isSome then ['|', '|'] else [] := by
  have hgap : '\x22' ∉ (if e.source.arrow then "" else " ").toList ∧
      (if e.source.arrow then "" else " ").toList.filter (· ∈ delimiters) = [] := by
    cases e.source.arrow <;> decide
  have hline : '\x22' ∉ ((if e.source.arrow then "" else " ") ++ e.connector).toList := by
    rw [String.toList_append, List.mem_append]
    exact not_or.mpr ⟨hgap.1, e.quote_not_mem_connector⟩
  have hdelimiters : ((if e.source.arrow then "" else " ") ++ e.connector).toList.filter
      (· ∈ delimiters) = (e.head .source ++ e.head .target).filter (· ∈ delimiters) := by
    rw [String.toList_append, List.filter_append, hgap.2, List.nil_append, e.filter_connector]
  unfold middle
  generalize (if e.source.arrow then "" else " ") ++ e.connector = line at hline hdelimiters ⊢
  cases e.label with
  | none =>
    have hall : '\x22' ∉ line.toList ++ [' '] := by simpa using hline
    rw [String.toList_append]
    show bareDelimiters (line.toList ++ [' ']) = _
    rw [bareDelimiters_of_not_mem hall, List.filter_append, hdelimiters]
    rfl
  | some label =>
    have hbefore : '\x22' ∉ line.toList ++ ['|'] := by simpa using hline
    have htext : (line ++ ("|" ++ quoteLabel label ++ "| ")).toList
        = line.toList ++ ['|'] ++ ((quoteLabel label).toList ++ ['|', ' ']) := by
      simp
    show bareDelimiters (line ++ ("|" ++ quoteLabel label ++ "| ")).toList = _
    rw [htext, bareDelimiters_around hbefore (by decide), List.append_assoc, List.filter_append,
      hdelimiters]
    rfl

end Edge

namespace Text

/-- A label is a text without delimiters as it is, or else a quoted string with no quote in it. So
in the text of a node the delimiters outside of quoted strings are those of the brackets, and in an
edge they are the arrowheads and the bars around the label. Different texts have different labels
if they do not hold the entity for a quote. -/
theorem quoteLabel_delimits :
    (∀ t : String,
      Undelimited t.toList ∧ quoteLabel t = t ∨
        ¬ Undelimited t.toList ∧
          ∃ body, (quoteLabel t).toList = '\x22' :: (body ++ ['\x22']) ∧ '\x22' ∉ body) ∧
    (∀ n : Node, n.text ≠ "" →
      n.declaration = n.id ++ (n.shape.getD .rect).wrap (quoteLabel n.text) ∧
        bareDelimiters ((n.shape.getD .rect).wrap (quoteLabel n.text)).toList
          = ((n.shape.getD .rect).opening ++ (n.shape.getD .rect).closing).toList.filter
            (· ∈ delimiters)) ∧
    (∀ e : Edge, bareDelimiters e.middle.toList
      = (e.head .source ++ e.head .target).filter (· ∈ delimiters)
        ++ if e.label.isSome then ['|', '|'] else []) ∧
    ∀ t u : String, ¬ quoteEntity <:+: t.toList → ¬ quoteEntity <:+: u.toList →
      (quoteLabel t = quoteLabel u ↔ t = u) := by
  refine ⟨fun t => ?_, fun n hn => ⟨if_neg hn, Shape.bareDelimiters_wrap _ _⟩,
    Edge.bareDelimiters_middle, fun t u ht hu => quoteLabel_inj ht hu⟩
  rcases quoteLabel_cases t with hplain | ⟨hdelimited, hlabel⟩
  · exact .inl hplain
  · exact .inr ⟨hdelimited, _, hlabel, quote_not_mem_escape _⟩

/-- A stadium around a text that would close it, and open a second one. -/
def unbalancedNode : Node where
  id := "a"
  text := "x])|b([\x22y\x22"
  shape := some .stadium

/-- The node shows its own four brackets, and a mark before a quote is told from one after it. -/
theorem quoteLabel_unbalancedNode :
    unbalancedNode.text ≠ "" ∧
      unbalancedNode.declaration = "a([\x22x])|b([#quot;y#quot;\x22])" ∧
      bareDelimiters (Shape.stadium.wrap (quoteLabel unbalancedNode.text)).toList
        = ['(', '[', ']', ')'] ∧
      ¬ quoteEntity <:+: "#\x22".toList ∧ ¬ quoteEntity <:+: "\x22#".toList ∧
      quoteLabel "#\x22" ≠ quoteLabel "\x22#" := by
  obtain ⟨-, hnodes, -, hlabels⟩ := quoteLabel_delimits
  have htext : unbalancedNode.text ≠ "" := by decide
  obtain ⟨hdeclaration, hbare⟩ := hnodes unbalancedNode htext
  have hmark : ¬ quoteEntity <:+: "#\x22".toList := by decide
  have hmark' : ¬ quoteEntity <:+: "\x22#".toList := by decide
  refine ⟨htext, hdeclaration.trans (by decide), hbare.trans (by decide), hmark, hmark', ?_⟩
  exact mt (hlabels _ _ hmark hmark').mp (by decide)

end Text

end Flowchart
