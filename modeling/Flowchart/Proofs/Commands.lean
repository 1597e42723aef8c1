import Flowchart.CommandLine.Run
import Flowchart.Proofs.Files
import Flowchart.Proofs.MachineRender

/-!
# What a command leaves behind

A command line that draws a machine agrees with the library: it succeeds on the texts that
`renderMachineText` draws, leaves that text and nothing else, and fails with the refusal of the
library otherwise. A command line that checks a machine prints a line for each transition that
leads to no state, and fails if there is one.
-/

namespace Flowchart

/-- A drawn text has a last line of its own. -/
theorem Machine.exists_render_eq {m : Machine} {t : StyleTable} {text : String}
    (h : m.render t = .ok text) :
    ∃ before, text = before ++ "\n" ++ "linkStyle default stroke:#fff" := by
  cases hset : MachineSettings.ofTags m.tags with
  | error r =>
    have hrefused : m.render t = .error r := by
      simp only [render, Workspace.renderMachine, Workspace.drawMachine, hset]
      rfl
    cases hrefused.symm.trans h
  | ok settings =>
    have hdrawn := Workspace.renderMachine_eq hset { store := (t.install {}).2 } (t.install {}).1
      fun _ hn => absurd hn List.not_mem_nil
    cases h.symm.trans hdrawn
    rw [directText, directLines, String.intercalate_append_of_ne_nil (by simp)
      (List.cons_ne_nil _ _), String.intercalate_singleton]
    exact ⟨_, rfl⟩

/-- No transition dangles if and only if all of them lead to states that are declared. -/
theorem Machine.danglingArcs_eq_nil_iff {m : Machine} : m.danglingArcs = [] ↔
    ∀ e ∈ m.states.entries, ∀ x ∈ e.2.on.entries, x.2.target ∈ m.states.keys := by
  simp only [danglingArcs, List.filter_eq_nil_iff, arcs, List.mem_flatMap, List.mem_map,
    dangles_iff, not_not, Dict.contains_iff]
  constructor
  · exact fun h e he x hx => h ⟨e.1, x.1, x.2⟩ ⟨e, he, x, hx, rfl⟩
  · rintro h _ ⟨e, he, x, hx, rfl⟩
    exact h e he x hx

namespace CommandLine

/-- A drawn text is printed with a line break at its end. -/
theorem printedText_renderMachineText {machine text : String} {styles : Option String}
    (h : renderMachineText machine styles = .ok text) : printedText text = text ++ "\n" := by
  obtain ⟨m, -, h⟩ := bind_eq_ok.mp h
  obtain ⟨t, -, hrender⟩ := bind_eq_ok.mp h
  obtain ⟨before, rfl⟩ := Machine.exists_render_eq hrender
  refine if_neg (not_or.mpr ⟨?_, ?_⟩)
  · intro hempty
    simpa using congrArg String.toList hempty
  · have hlast : ("linkStyle default stroke:#fff").toList.getLast? = some 'f' := rfl
    rw [String.toList_append, List.getLast?_append, hlast]
    simp

/-! ## Drawing -/

section Drawing

variable {s : Sources} {input styles table : Option String} {text : String}

/-- The style table of a command is that of the texts it reads. -/
theorem exists_table_eq (htable : styles.mapM s.read = .ok table) :
    ∃ context, s.table styles
      = (StyleTable.readOr table).mapError fun r => ⟨context, some r⟩ := by
  cases styles with
  | none =>
    cases htable
    exact ⟨[], rfl⟩
  | some path =>
    obtain ⟨content, hread, hcontent⟩ := bind_eq_ok.mp htable
    cases hcontent
    refine ⟨["Invalid style table '" ++ path ++ "'"], ?_⟩
    have htable : s.table (some path) = (StyleTable.read content).mapError fun p =>
        ⟨["Invalid style table '" ++ path ++ "'"], some (.json p)⟩ := by
      simp only [Sources.table, hread]
      rfl
    rw [htable, StyleTable.readOr]
    cases StyleTable.read content with
    | error p => rfl
    | ok t => rfl

/-- A command draws what the library draws from the texts that it reads, and adds to a refusal only
what was being done. -/
theorem exists_drawMachine_eq (hinput : s.input input = .ok text)
    (htable : styles.mapM s.read = .ok table) :
    ∃ context, drawMachine s input styles
      = (renderMachineText text table).mapError fun r => ⟨context, some r⟩ := by
  obtain ⟨context, hstyles⟩ := exists_table_eq htable
  have hmachine : s.machine input = (Machine.read text).mapError fun p =>
      ⟨["Failed to parse state machine"], some (.json p)⟩ := by
    simp only [Sources.machine, hinput]
    rfl
  simp only [drawMachine, renderMachineText, hmachine, hstyles]
  -- The machine is read first, then the table, and only then the tags of the machine.
  cases Machine.read text with
  | error p => exact ⟨["Failed to parse state machine"], rfl⟩
  | ok m =>
    cases StyleTable.readOr table with
    | error r => exact ⟨context, rfl⟩
    | ok t => exact ⟨[], rfl⟩

end Drawing

/-- What is left once the answer of the library has been given out: a text stands in the file of
the output, or is printed with a line break at its end; a refusal is what the command fails with in
the end. -/
def Finish.Delivers (f : Finish) (d : Directory) (output : Option String) :
    Except Refusal String → Prop
  | .ok text =>
    f.status = 0 ∧
      match filePath? output with
      | none => f.printed = text ++ "\n" ∧ f.directory = d
      | some path => f.printed = "" ∧ d.Saved path text f.directory
  | .error r => f.status = 1 ∧ ∃ context, f.failure = some ⟨context, some r⟩

/-- What is left once a machine has been drawn. -/
structure Finish.Draws (f : Finish) (d : Directory) (s : Sources)
    (input styles output : Option String) : Prop where
  /-- If the command fails, for whatever reason, nothing has been printed or saved. -/
  failing : f.status ≠ 0 → f.status = 1 ∧ f.printed = "" ∧ f.directory = d
  /-- If its files can be read and written, the answer is that of the library. -/
  delivers : ∀ text table, s.input input = .ok text →
    styles.mapM s.read = .ok table → (∀ path, filePath? output = some path → d.Writable path) →
      f.Delivers d output (renderMachineText text table)

/-- Drawing a machine leaves what the library answers. -/
theorem draws_finish (s : Sources) (d : Directory) (input styles output : Option String) :
    (((Command.machine input styles output).run s).finish d).Draws d s input styles output where
  failing := by
    simp only [Command.run]
    cases drawMachine s input styles with
    | error failure => exact fun _ => ⟨rfl, rfl, rfl⟩
    | ok text =>
      cases filePath? output with
      | none => exact fun hfailed => absurd rfl hfailed
      | some path =>
        -- Saving comes last, and a text that is to be saved is not printed.
        simp only [Report.finish]
        cases d.write path text with
        | error e => exact fun _ => ⟨rfl, rfl, rfl⟩
        | ok after => exact fun hfailed => absurd rfl hfailed
  delivers := by
    intro text table hinput htable hwritable
    obtain ⟨context, hdraw⟩ := exists_drawMachine_eq hinput htable
    cases hrender : renderMachineText text table with
    | error r =>
      simp only [Command.run, hdraw, hrender]
      exact ⟨rfl, context, rfl⟩
    | ok drawn =>
      have hdrawn : drawMachine s input styles = .ok drawn := by
        rw [hdraw, hrender]
        rfl
      simp only [Command.run, hdrawn]
      cases houtput : filePath? output with
      | none =>
        refine ⟨rfl, ?_⟩
        rw [houtput]
        exact ⟨printedText_renderMachineText hrender, rfl⟩
      | some path =>
        obtain ⟨after, hwrite, hsaved⟩ := d.exists_write_eq_ok (hwritable path houtput) drawn
        have hfinish : (⟨"", some (path, drawn), none⟩ : Report).finish d = ⟨"", after, none⟩ := by
          simp only [Report.finish, hwrite]
        rw [hfinish]
        refine ⟨rfl, ?_⟩
        rw [houtput]
        exact ⟨rfl, hsaved⟩

/-! ## Checking -/

/-- The characters of the names that the line of a transition tells. -/
def nameChars (a : Arc) : List Char :=
  a.state.toList ++ a.event.toList ++ a.transition.target.toList

theorem count_danglingLine (a : Arc) :
    (danglingLine a).toList.count '\n' = (nameChars a).count '\n' + 1 := by
  have hmark : ("✗ ").toList.count '\n' = 0 := rfl
  have hevent : (" --").toList.count '\n' = 0 := rfl
  have hhead : ("--> ").toList.count '\n' = 0 := rfl
  have hlast : (": target state is not declared\n").toList.count '\n' = 1 := rfl
  simp only [danglingLine, nameChars, String.toList_append, List.count_append, hmark, hevent,
    hhead, hlast]
  omega

/-- The line of a transition is one line, and one more for each line break in a name. -/
theorem count_join_danglingLine (as : List Arc) :
    (String.join (as.map danglingLine)).toList.count '\n'
      = as.length + (as.flatMap nameChars).count '\n' := by
  induction as with
  | nil => rfl
  | cons a rest ih =>
    rw [List.map_cons, String.join_cons, String.toList_append, List.count_append,
      count_danglingLine, ih, List.length_cons, List.flatMap_cons, List.count_append]
    omega

theorem saved_checkReport (m : Machine) : (checkReport m).saved = none := by
  unfold checkReport
  split <;> rfl

/-- A check saves nothing. -/
theorem saved_check (s : Sources) (input : Option String) :
    ((Command.check input).run s).saved = none := by
  simp only [Command.run]
  split
  · rfl
  · exact saved_checkReport _

theorem directory_finish {r : Report} (h : r.saved = none) (d : Directory) :
    (r.finish d).directory = d := by
  simp only [Report.finish, h]

/-- What is left once a machine has been checked. -/
structure Finish.Checks (f : Finish) (m : Machine) : Prop where
  status_eq_zero_iff : f.status = 0 ↔
    ∀ e ∈ m.states.entries, ∀ x ∈ e.2.on.entries, x.2.target ∈ m.states.keys
  /-- If it fails, there is a line for each transition to a state that is not declared. -/
  printed_eq : f.status ≠ 0 →
    f.status = 1 ∧ f.printed = String.join (m.danglingArcs.map danglingLine)
  /-- As each of these ends in a line break, there are as many lines as transitions unless a name
  has a line break, too. -/
  count_eq_iff : f.status ≠ 0 →
    (f.printed.toList.count '\n' = m.danglingArcs.length ↔
      ∀ a ∈ m.danglingArcs, '\n' ∉ a.state.toList ∧ '\n' ∉ a.event.toList
        ∧ '\n' ∉ a.transition.target.toList)

/-- Checking a machine tells of every transition to a state that is not declared. -/
theorem checks_finish (d : Directory) (m : Machine) : ((checkReport m).finish d).Checks m := by
  cases harcs : m.danglingArcs with
  | nil =>
    have hreport : ((checkReport m).finish d).status = 0 := by
      simp only [checkReport, harcs]
      rfl
    exact ⟨iff_of_true hreport (Machine.danglingArcs_eq_nil_iff.mp harcs),
      fun hfailed => absurd hreport hfailed, fun hfailed => absurd hreport hfailed⟩
  | cons a rest =>
    have hreport : ((checkReport m).finish d).status = 1
        ∧ ((checkReport m).finish d).printed = String.join (m.danglingArcs.map danglingLine) := by
      simp only [checkReport, harcs]
      exact ⟨rfl, rfl⟩
    have hdeclared : ¬ ∀ e ∈ m.states.entries, ∀ x ∈ e.2.on.entries,
        x.2.target ∈ m.states.keys := by
      rw [← Machine.danglingArcs_eq_nil_iff, harcs]
      exact List.cons_ne_nil a rest
    refine ⟨iff_of_false (by rw [hreport.1]; exact one_ne_zero) hdeclared, fun _ => hreport,
      fun _ => ?_⟩
    -- There are as many lines as transitions if the names add no line break.
    rw [hreport.2, count_join_danglingLine, Nat.add_eq_left, List.count_eq_zero]
    simp [nameChars]

/-! ## Command lines -/

/-- A command line that makes sense is run to an end, wherever it reads from. -/
theorem runFrom_eq_ok (s : Sources) (d : Directory) {args : List String} {inv : Invocation}
    (hargs : readArguments args = .ok inv) :
    ∃ f, runFrom s d args = .ok f ∧
      (∀ input styles output, inv.command = .machine input styles output →
        f.Draws d s input styles output) ∧
      ∀ input, inv.command = .check input →
        f.directory = d ∧
          ∀ text m, s.input input = .ok text → Machine.read text = .ok m → f.Checks m := by
  refine ⟨(inv.command.run s).finish d, bind_eq_ok.mpr ⟨inv, hargs, rfl⟩, ?_, ?_⟩
  · intro input styles output hcommand
    rw [hcommand]
    exact draws_finish s d input styles output
  · intro input hcommand
    rw [hcommand]
    refine ⟨directory_finish (saved_check _ input) d, fun text m hinput hread => ?_⟩
    have hmachine : s.machine input = .ok m := by
      simp only [Sources.machine, hinput]
      exact congrArg (Except.mapError _) hread
    simp only [Command.run, hmachine]
    exact checks_finish d m

/-- A command line that makes sense is run to an end. When it draws a machine, it agrees with the
library, and prints and saves nothing if it fails; when it checks a machine, it saves nothing, fails
if a transition leads to a state that is not declared, and prints these transitions in order. What
is said of failing and of saving holds wherever it reads from, also where the standard input or a
file is refused for whatever reason. -/
theorem runIn_eq_ok (d : Directory) (stdin : String) {args : List String} {inv : Invocation}
    (hargs : readArguments args = .ok inv) :
    (∃ f, runIn d stdin args = .ok f ∧
      (∀ input styles output, inv.command = .machine input styles output →
        f.Draws d ⟨.ok stdin, d.read⟩ input styles output) ∧
      ∀ input, inv.command = .check input →
        f.directory = d ∧
          ∀ text m, (⟨.ok stdin, d.read⟩ : Sources).input input = .ok text →
            Machine.read text = .ok m → f.Checks m) ∧
    ∀ s : Sources, ∃ f, runFrom s d args = .ok f ∧
      (∀ input styles output, inv.command = .machine input styles output → f.status ≠ 0 →
        f.status = 1 ∧ f.printed = "" ∧ f.directory = d) ∧
      ∀ input, inv.command = .check input → f.directory = d := by
  refine ⟨runFrom_eq_ok _ d hargs, fun s => ?_⟩
  obtain ⟨f, hrun, hdraws, hchecks⟩ := runFrom_eq_ok s d hargs
  exact ⟨f, hrun, fun input styles output hcommand => (hdraws input styles output hcommand).failing,
    fun input hcommand => (hchecks input hcommand).1⟩

/-- The machine of a door. -/
def door : String :=
  "\x7b\"id\":\"door\",\"states\":\x7b\"open\":\x7b\"on\":\x7b\"SHUT\":\"shut\"\x7d\x7d\x7d\x7d"

/-- A working directory with a machine. -/
def doorDirectory : Directory where
  files := [(["door.json"], door)]

/-- The machine of a door is drawn into a file. -/
theorem runIn_doorDirectory :
    ∃ f, runIn doorDirectory "" ["machine", "-i", "door.json", "-o", "door.mmd"] = .ok f ∧
      f.status = 0 ∧ f.printed = "" ∧
      doorDirectory.Saved "door.mmd" ("\n".intercalate ["---", "title: door", "---",
        "flowchart TB", "open[open] --> shut", "linkStyle default stroke:#fff"]) f.directory := by
  have hargs : readArguments ["machine", "-i", "door.json", "-o", "door.mmd"]
      = .ok { command := .machine (some "door.json") none (some "door.mmd") } := rfl
  obtain ⟨⟨f, hrun, hdraws, -⟩, -⟩ := runIn_eq_ok doorDirectory "" hargs
  have hdelivers := (hdraws _ _ _ rfl).delivers door none rfl rfl fun path hpath => by
    cases hpath
    exact ⟨"", _, rfl⟩
  have hrender : renderMachineText door none = .ok ("\n".intercalate ["---", "title: door", "---",
      "flowchart TB", "open[open] --> shut", "linkStyle default stroke:#fff"]) := by
    decide +kernel
  rw [hrender] at hdelivers
  exact ⟨f, hrun, hdelivers.1, hdelivers.2.1, hdelivers.2.2⟩

/-- A machine with a line break in the name of a state. -/
def brokenName : String :=
  "\x7b\"id\":\"m\",\"states\":\x7b\"a\\nb\":\x7b\"on\":\x7b\"GO\":\"c\"\x7d\x7d\x7d\x7d"

/-- A check prints two lines for one transition if a name holds a line break. -/
theorem check_brokenName :
    (Machine.read brokenName).map (fun m => m.danglingArcs.length) = .ok 1 ∧
      (runIn {} brokenName ["check"]).map (fun f => (f.status, f.printed.toList.count '\n'))
        = .ok (1, 2) := by
  constructor <;> decide +kernel

end CommandLine

end Flowchart
