import Flowchart.CommandLine.Files
import Flowchart.Refusal
import Mathlib.Data.List.Basic

/-!
# Writing a file and reading it back

What has been written under a path is what is read under it, and every other file keeps its
content. Whether a path can be written to is settled by the path and the files that are there, not
by the text. A new file takes no directory away, so a walk that has led somewhere still does.
-/

namespace Flowchart.CommandLine

namespace Directory

variable (d : Directory) {place p : Path} {names : List String} {content : String}

/-! ## One more file -/

theorem lookup_filter_of_ne (files : List (Path × String)) (h : p ≠ place) :
    (files.filter fun f => f.1 != place).lookup p = files.lookup p := by
  induction files with
  | nil => rfl
  | cons f rest ih =>
    obtain ⟨q, text⟩ := f
    by_cases hq : q = place
    · have hp : (p == q) = false := beq_false_of_ne fun hp => h (hp.trans hq)
      rw [List.filter_cons_of_neg (by simpa using hq), List.lookup_cons, hp, ih]
    · rw [List.filter_cons_of_pos (by simpa using hq), List.lookup_cons, List.lookup_cons, ih]

@[simp]
theorem content?_put_self : (d.put place content).content? place = some content := by
  simp [content?, put]

theorem content?_put_of_ne (h : p ≠ place) :
    (d.put place content).content? p = d.content? p := by
  have hp : (p == place) = false := beq_false_of_ne h
  simp [content?, put, List.lookup_cons, hp, lookup_filter_of_ne _ h]

/-- A file where there was one, or where there was nothing, leaves every directory. -/
theorem isDirectory_put (h : d.isDirectory p) : (d.put place content).isDirectory p := by
  simp only [isDirectory, Bool.or_eq_true, List.any_eq_true, put, List.mem_cons,
    List.mem_filter] at h ⊢
  refine h.imp_right fun ⟨f, hf, hp⟩ => ?_
  by_cases hplace : f.1 = place
  · exact ⟨(place, content), .inl rfl, hplace ▸ hp⟩
  · exact ⟨f, .inr ⟨hf, by simpa using hplace⟩, hp⟩

/-- A file is no directory, unless other files lie in it. -/
theorem isDirectory_put_self (h : d.isDirectory place = false) :
    (d.put place content).isDirectory place = false := by
  simp only [isDirectory, Bool.or_eq_false_iff, List.any_eq_false, put, List.mem_cons,
    List.mem_filter] at h ⊢
  refine ⟨h.1, fun f hf => ?_⟩
  obtain rfl | ⟨hf, -⟩ := hf
  · simp
  · exact h.2 f hf

/-! ## Walking -/

theorem enter_eq_ok : d.enter p = .ok () ↔ d.isDirectory p := by
  unfold enter
  split <;> simp [*]

theorem walk_put {last : Path} (h : d.walk p names = .ok last) :
    (d.put place content).walk p names = .ok last := by
  induction names generalizing p with
  | nil => exact h
  | cons name rest ih =>
    obtain ⟨⟨⟩, hp, hrest⟩ := bind_eq_ok.mp h
    refine bind_eq_ok.mpr ⟨(), (enter_eq_ok _).mpr (d.isDirectory_put (d.enter_eq_ok.mp hp)), ?_⟩
    split at hrest
    · cases hrest
    · next hlong =>
      rw [if_neg hlong]
      exact ih hrest

/-- A walk ends where its names lead. -/
theorem eq_foldl_of_walk {last : Path} (h : d.walk p names = .ok last) :
    last = names.foldl Path.step p := by
  induction names generalizing p with
  | nil =>
    cases h
    rfl
  | cons name rest ih =>
    obtain ⟨⟨⟩, -, hrest⟩ := bind_eq_ok.mp h
    split at hrest
    · cases hrest
    · exact ih hrest

/-- A walk along names and one more. -/
theorem walk_append_singleton {mid : Path} {name : String} (h : d.walk p names = .ok mid)
    (hmid : d.isDirectory mid) (hlong : isTooLong name = false) :
    d.walk p (names ++ [name]) = .ok (mid.step name) := by
  induction names generalizing p with
  | nil =>
    cases h
    exact bind_eq_ok.mpr ⟨(), d.enter_eq_ok.mpr hmid, by simp [hlong, walk]⟩
  | cons first rest ih =>
    obtain ⟨⟨⟩, hp, hrest⟩ := bind_eq_ok.mp h
    refine bind_eq_ok.mpr ⟨(), hp, ?_⟩
    split at hrest
    · cases hrest
    · next hfirst =>
      rw [if_neg hfirst]
      exact ih hrest

/-! ## Writing -/

/-- A path under which a text can be saved: its names lead along directories to a place that is no
directory. -/
structure Leads (path : String) : Prop where
  checked : checkPath path = .ok ()
  ne_empty : path ≠ ""
  walk : d.walk (pathNames path).1 (pathNames path).2 = .ok (Path.ofText path)
  isDirectory : d.isDirectory (Path.ofText path) = false

/-- Names that do not end in an empty one. -/
theorem eq_append_of_dropWhile {names before : List String} {last : String}
    (hlast : names.getLast? ≠ some "")
    (h : names.reverse.dropWhile (· == "") = last :: before) :
    names = before.reverse ++ [last] := by
  cases hnames : names.reverse with
  | nil => simp [hnames] at h
  | cons name rest =>
    have hname : (name == "") = false := by
      rw [← List.head?_reverse, hnames] at hlast
      simpa using hlast
    rw [hnames, List.dropWhile_cons_of_neg (by simp [hname])] at h
    rw [← names.reverse_reverse, hnames, h, List.reverse_cons]

/-- A text is written at the place to which its path leads, whatever the text is. -/
theorem write_eq_ok {path text : String} {after : Directory} (h : d.write path text = .ok after) :
    d.Leads path ∧ ∀ other, d.write path other = .ok (d.put (Path.ofText path) other) := by
  obtain ⟨⟨⟩, hcheck, h⟩ := bind_eq_ok.mp h
  simp only at h
  split at h
  · split at h <;> cases h
  next last before hnames =>
  obtain ⟨mid, hwalk, h⟩ := bind_eq_ok.mp h
  obtain ⟨⟨⟩, hmid, h⟩ := bind_eq_ok.mp h
  split at h
  · cases h
  next hlast =>
  split at h
  · cases h
  next hlong =>
  split at h
  · cases h
  next hplace =>
  -- The path does not end in a slash, so its names are those that were walked along and the last.
  have hnamesEq := eq_append_of_dropWhile (fun hl => hlast (.inl hl)) hnames
  have hwhole : d.walk (pathNames path).1 (pathNames path).2 = .ok (mid.step last) := by
    rw [hnamesEq]
    exact d.walk_append_singleton hwalk (d.enter_eq_ok.mp hmid) (by simpa using hlong)
  have hplaceEq : mid.step last = Path.ofText path := d.eq_foldl_of_walk hwhole
  rw [hplaceEq] at hwhole hplace
  refine ⟨⟨hcheck, ?_, hwhole, by simpa using hplace⟩, fun other => ?_⟩
  · rintro rfl
    cases hnames
  · refine bind_eq_ok.mpr ⟨(), hcheck, ?_⟩
    simp only [hnames]
    refine bind_eq_ok.mpr ⟨mid, hwalk, bind_eq_ok.mpr ⟨(), hmid, ?_⟩⟩
    rw [if_neg hlast, if_neg hlong, hplaceEq, if_neg hplace]

/-- What is at the place to which a path leads is read under it. -/
theorem Leads.read {d : Directory} {path : String} (h : d.Leads path)
    (hcontent : d.content? (Path.ofText path) = some content) : d.read path = .ok content := by
  refine bind_eq_ok.mpr ⟨(), h.checked, bind_eq_ok.mpr ⟨Path.ofText path, h.walk, ?_⟩⟩
  rw [if_neg h.ne_empty, h.isDirectory, hcontent]
  rfl

theorem Leads.put {d : Directory} {path : String} (h : d.Leads path) :
    (d.put (Path.ofText path) content).Leads path :=
  ⟨h.checked, h.ne_empty, d.walk_put h.walk, d.isDirectory_put_self h.isDirectory⟩

/-- Tells whether a path can be written to. -/
def Writable (path : String) : Prop :=
  ∃ text after, d.write path text = .ok after

/-- A directory in which a text has been saved under a path, and nothing else has changed. -/
structure Saved (path text : String) (after : Directory) : Prop where
  read : after.read path = .ok text
  others : ∀ p, p ≠ Path.ofText path → after.content? p = d.content? p

theorem exists_write_eq_ok {path : String} (h : d.Writable path) (text : String) :
    ∃ after, d.write path text = .ok after ∧ d.Saved path text after := by
  obtain ⟨_, _, h⟩ := h
  obtain ⟨hleads, hwrite⟩ := d.write_eq_ok h
  exact ⟨_, hwrite text, hleads.put.read d.content?_put_self, fun p => d.content?_put_of_ne⟩

end Directory

end Flowchart.CommandLine
