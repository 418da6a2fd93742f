import Testbed.Proofs.Config.Layers
import Testbed.Proofs.Outcome

/-!
# What a configuration holds

Values reach a configuration by three ways: out of its files, which are all read at once; by a
change in memory, which takes effect immediately; and by the same change once more, after every
later reading of the files. What the three have in common is that a configuration *holds what some
disk says* (`Config.Holds`): to read that disk would not change it. A reading establishes that of
its disk, a change in memory keeps it – it goes on top of the files, whether they are read before it
or after it – and whatever fails leaves the configuration alone.

So a configuration always consists of the files as they were at the last successful reading and of
the changes in memory on top of them (`sections_layered`), however often reading failed since.

The property is worth a name because it is one equation. That a configuration *equals* what reading
a disk would give is preserved by whatever the disk does not notice, and the sections, the list of
what was read, the files and the changes in memory are all covered by it at once.
-/

namespace Testbed

/-- A disk with some texts, by their paths and with the times of their last modification. A path
that is not among them leads to nothing. -/
def Disk.ofTexts (texts : List (String × String × Int)) : Disk := fun path =>
  (texts.lookup path).map (fun (text, modified) => .file (Text.Utf8.encode text) modified)

namespace Config

/-- What a file alone gives, if there is a file. A file that cannot be understood gives none, but
then the reading as a whole fails. -/
def fileLayer? (disk : Disk) (path : String) : Option Sections :=
  match disk.readToml path with
  | .ok (some (table, _)) => some (.addDocument .empty table)
  | .ok none | .error _ => none

/-- **A configuration holds what a disk says**: reading the disk changes nothing. It does not say
that the disk is as it is now. A configuration holds the disk of its last successful reading, which
may have changed since or be gone. -/
def Holds (disk : Disk) (c : Config) : Prop := c.read disk = .ok c

variable {disk : Disk} {c c' : Config} {files : List String} {name : String} {values : Section}

/-! ## Readings

A reading succeeds or fails as a whole. When it succeeds, what the configuration has afterwards is
told by the disk and by what was set in memory, and by nothing that was there before. -/

/-- What is read is a pile on top of what is there. Files that are not there leave no layer. -/
theorem readFiles_layers {s : Sections} {loaded : List (String × Int)}
    {r : Sections × List (String × Int)} (h : readFiles disk files s loaded = .ok r) :
    r.1 = Sections.lay s (Sections.pile (files.filterMap (fileLayer? disk))) := by
  induction files generalizing s loaded with
  | nil =>
    obtain rfl : (s, loaded) = r := Except.ok.inj h
    rfl
  | cons file rest ih =>
    unfold readFiles at h
    cases hfile : disk.readToml file with
    | error e => rw [hfile] at h; cases h
    | ok found =>
      rw [hfile] at h
      cases found with
      | none =>
        rw [ih h, List.filterMap_cons_none (by unfold fileLayer?; rw [hfile])]
      | some read =>
        have hlayer : fileLayer? disk file = some (.addDocument .empty read.1) := by
          unfold fileLayer?
          rw [hfile]
        rw [ih h, List.filterMap_cons_some hlayer, Sections.addDocument_eq_lay, Sections.lay_assoc,
          Sections.pile_cons]

/-- A reading gives the files' sections under those set in memory, and keeps the rest. The list of
the files that were read is that of this reading. -/
theorem read_eq_ok_iff :
    c.read disk = .ok c' ↔
      ∃ base, readFiles disk c.files .empty [] = .ok (base, c'.loaded)
        ∧ c'.files = c.files ∧ c'.overrides = c.overrides
        ∧ c'.sections = Sections.lay base c.overrides := by
  unfold read
  cases hfiles : readFiles disk c.files .empty [] with
  | error e => exact ⟨nofun, fun ⟨base, hbase, _⟩ => nomatch hbase⟩
  | ok r =>
    constructor
    · intro h
      obtain rfl := Except.ok.inj h
      exact ⟨r.1, rfl, rfl, rfl, rfl⟩
    · rintro ⟨base, hbase, hf, ho, hs⟩
      obtain rfl := Except.ok.inj hbase
      cases c'
      cases hf
      cases ho
      cases hs
      rfl

/-- **What was read is held.** This is the step that makes the invariant begin. -/
theorem holds_of_read (h : c.read disk = .ok c') : Holds disk c' := by
  have ⟨base, hbase, hf, ho, hs⟩ := read_eq_ok_iff.1 h
  exact read_eq_ok_iff.2 ⟨base, hf ▸ hbase, rfl, rfl, ho ▸ hs⟩

/-- **A change in memory keeps to the disk**: it goes on top of it, now and at every reading. The
same change is made twice, to the sections and to what is remembered for later readings. That the
two lead to the same sections is `Sections.lay_overlay`. -/
theorem Holds.setSection (h : Holds disk c) (name : String) (values : Section) :
    Holds disk (c.setSection name values) := by
  have ⟨base, hbase, _, _, hs⟩ := read_eq_ok_iff.1 h
  refine read_eq_ok_iff.2 ⟨base, hbase, rfl, rfl, ?_⟩
  show c.sections.overlay name values = Sections.lay base (c.overrides.overlay name values)
  rw [Sections.lay_overlay, hs]

/-- What a configuration holds, by its layers. What was set in memory lies on top, as one layer. -/
theorem Holds.sections_eq (h : Holds disk c) :
    c.sections
      = Sections.lay (Sections.pile (c.files.filterMap (fileLayer? disk))) c.overrides := by
  have ⟨base, hbase, _, _, hs⟩ := read_eq_ok_iff.1 h
  have hlayers : base = _ := readFiles_layers hbase
  rw [hs, hlayers, Sections.empty_lay]

/-- To reload is to read if a file has changed, and nothing otherwise. The two cases exclude each
other by the test on the files. -/
theorem reload_eq_ok_iff {changed : Bool} :
    c.reload disk = .ok (changed, c') ↔
      (c.hasChanged disk = true ∧ changed = true ∧ c.read disk = .ok c')
        ∨ (c.hasChanged disk = false ∧ changed = false ∧ c' = c) := by
  unfold reload
  cases c.hasChanged disk with
  | false =>
    rw [if_neg Bool.false_ne_true, Except.ok.injEq, Prod.mk.injEq]
    simp [eq_comm]
  | true =>
    rw [if_pos rfl]
    cases c.read disk with
    | error e => simp [Except.map]
    | ok r => simp [Except.map, eq_comm]

/-! ## Calls, one after another

Calls may set values, read, or reload, and each reading sees a disk of its own. What is kept through
all of them is that the configuration holds what the last successful reading saw. -/

/-- A call on a configuration that can change it. Whatever reads sees a disk of its own. Those that
only look something up are left out. -/
inductive Step where
  /-- Values are set in memory. -/
  | set (name : String) (values : Section)
  /-- All files are read again. -/
  | read (disk : Disk)
  /-- All files are read again if one has changed. -/
  | reload (disk : Disk)

/-- What a call sets in memory, as a layer. A reading sets nothing in memory. -/
def Step.layer? : Step → Option Sections
  | set name values => some (.only name values)
  | read _ | reload _ => none

/-- The disk that a call sees. It need not be the disk that a later call sees. -/
def Step.disk? : Step → Option Disk
  | set .. => none
  | read disk | reload disk => some disk

/-- A configuration, and the disk that was read with success for the last time. The disk is a
witness: no part of the program keeps it. -/
structure Held where
  config : Config
  disk : Disk

/-- **A call.** One that fails does nothing, and only a reading changes which disk was the last. A
reload that finds nothing changed leaves the disk that was the last, although it has looked at
another one. -/
def Held.after (held : Held) : Step → Held
  | .set name values => ⟨held.config.setSection name values, held.disk⟩
  | .read disk =>
    match held.config.read disk with
    | .ok config => ⟨config, disk⟩
    | .error _ => held
  | .reload disk =>
    match held.config.reload disk with
    | .ok (changed, config) => ⟨config, if changed then disk else held.disk⟩
    | .error _ => held

/-- Calls one after another. A call that fails leaves both as they were. -/
def Held.run (held : Held) (steps : List Step) : Held := steps.foldl Held.after held

variable {held : Held} {layers : List Sections}

theorem Held.after_read (h : held.config.read disk = .ok c) :
    held.after (.read disk) = ⟨c, disk⟩ := by
  unfold after
  simp only [h]

theorem Held.after_read_error {e : ControlError} (h : held.config.read disk = .error e) :
    held.after (.read disk) = held := by
  unfold after
  simp only [h]

theorem Held.after_reload {changed : Bool} (h : held.config.reload disk = .ok (changed, c)) :
    held.after (.reload disk) = ⟨c, if changed then disk else held.disk⟩ := by
  unfold after
  simp only [h]

theorem Held.after_reload_error {e : ControlError} (h : held.config.reload disk = .error e) :
    held.after (.reload disk) = held := by
  unfold after
  simp only [h]

/-- **A configuration in the middle of its life**, made from some files and changed by some layers:
it still has the files, remembers the changes, and holds what the disk says that was read last. The
three conditions are about the three things that a reading uses: the files, the changes in memory
and the disk. No call adds a file or forgets a change. -/
structure Held.Sound (files : List String) (layers : List Sections) (held : Held) : Prop where
  holds : Holds held.disk held.config
  files : held.config.files = files
  overrides : held.config.overrides = Sections.pile layers

/-- A reading of another disk. It takes the place of the one before altogether. -/
theorem Held.Sound.read (h : Sound files layers held) (hread : held.config.read disk = .ok c) :
    Sound files layers ⟨c, disk⟩ := by
  have ⟨_, _, hf, ho, _⟩ := read_eq_ok_iff.1 hread
  exact {
    holds := holds_of_read hread
    files := hf.trans h.files
    overrides := ho.trans h.overrides }

/-- A call keeps a configuration sound, and adds the layer that it sets to the changes. A reading
that fails adds nothing and changes nothing. -/
theorem Held.Sound.after (h : Sound files layers held) (step : Step) :
    Sound files (layers ++ step.layer?.toList) (held.after step) := by
  cases step with
  | set name values =>
    refine { holds := h.holds.setSection name values, files := h.files, overrides := ?_ }
    show held.config.overrides.overlay name values = Sections.pile (layers ++ [.only name values])
    rw [Sections.pile_concat, Sections.overlay_eq_lay, h.overrides]
  | read disk =>
    show Sound files (layers ++ []) _
    rw [List.append_nil]
    cases hread : held.config.read disk with
    | error e => rwa [after_read_error hread]
    | ok c => rw [after_read hread]; exact h.read hread
  | reload disk =>
    show Sound files (layers ++ []) _
    rw [List.append_nil]
    cases hreload : held.config.reload disk with
    | error e => rwa [after_reload_error hreload]
    | ok r =>
      rw [after_reload hreload]
      obtain ⟨-, hchanged, hread⟩ | ⟨-, hchanged, hsame⟩ := reload_eq_ok_iff.1 hreload
      · rw [hchanged]
        exact h.read hread
      · rw [hchanged, hsame]
        exact h

/-- So do calls one after another. The layers are in the order of the calls that set them. -/
theorem Held.Sound.run (h : Sound files layers held) (steps : List Step) :
    Sound files (layers ++ steps.filterMap Step.layer?) (held.run steps) := by
  induction steps generalizing held layers with
  | nil => rwa [List.filterMap_nil, List.append_nil]
  | cons step rest ih =>
    have hrest := ih (h.after step)
    rw [List.append_assoc] at hrest
    rw [List.filterMap_cons]
    show Sound files _ ((held.after step).run rest)
    cases hlayer : step.layer? with
    | none => rwa [hlayer] at hrest
    | some layer => rwa [hlayer] at hrest

/-- A configuration that was just made is sound. Nothing has been set in memory then. -/
theorem sound_of_fromFiles (h : fromFiles disk files = .ok c) : Held.Sound files [] ⟨c, disk⟩ := by
  have ⟨_, _, hf, ho, _⟩ := read_eq_ok_iff.1 h
  exact { holds := holds_of_read h, files := hf, overrides := ho }

/-- **A configuration consists of its files and its changes in memory.** After any calls its
sections are a pile: first what the files gave, each for itself and in their order, as the last
reading saw them that succeeded; then what was set in memory, in the order of the calls. A key of a
section has the value of the topmost layer with that key in the section, or else in the one that all
fall back on. The calls may be readings and reloads of any disks, in any number, and changes in
memory at any time between them. Those that fail and those that find nothing to read leave no trace,
which is why only the last successful reading is mentioned. -/
theorem sections_layered (h : fromFiles disk files = .ok c) (steps : List Step) :
    let held := Held.run ⟨c, disk⟩ steps
    let layers := files.filterMap (fileLayer? held.disk) ++ steps.filterMap Step.layer?
    held.config.sections = Sections.pile layers
      ∧ ∀ name key, (held.config.sectionNamed name).get? key
        = (Sections.found layers name key).or (Sections.found layers Sections.fallback key) := by
  intro held layers
  have hsound := (sound_of_fromFiles h).run steps
  have hsections : held.config.sections = Sections.pile layers := by
    rw [Sections.pile_append, hsound.holds.sections_eq, hsound.files, hsound.overrides]
    rfl
  refine ⟨hsections, fun name key => ?_⟩
  rw [get_sectionNamed, defaultSection, hsections, Sections.get_pile, Sections.get_pile]

/-- A key that is in both files is set in memory as well, once one of them was written anew and
read, and once it could not be. A key that is only in the first file's outermost table is found in
the section nevertheless. -/
theorem layered_over_failure :
    let disk := Disk.ofTexts [("a", "x = 1\n[s]\ny = 1\n", 0), ("b", "[s]\ny = 2\nz = 2\n", 0)]
    let steps := [.set "s" (Dict.ofList [("y", .int 3)]),
      .reload (.ofTexts [("a", "x = 4\n[s]\ny = 4\n", 60), ("b", "[s]\ny = 2\nz = 2\n", 0)]),
      .read (.ofTexts [("a", "x = 5\n", 120), ("b", "[s", 60)]), .set "t" .empty]
    ∃ c, fromFiles disk ["a", "b"] = .ok c
      ∧ (let held := Held.run ⟨c, disk⟩ steps
        let layers := ["a", "b"].filterMap (fileLayer? held.disk) ++ steps.filterMap Step.layer?
        held.config.sections = Sections.pile layers
          ∧ ∀ name key, (held.config.sectionNamed name).get? key
            = (Sections.found layers name key).or (Sections.found layers Sections.fallback key))
      ∧ (let held := Held.run ⟨c, disk⟩ steps
        ["x", "y", "z"].map (held.config.sectionNamed "s").text? = [some "4", some "3", some "2"]
          ∧ held.config.sectionNames = ["DEFAULT", "s", "t"]) := by
  intro disk steps
  have ⟨c, hc, hfound⟩ := exists_ok_of_any (x := fromFiles disk ["a", "b"]) (p := fun c =>
    let held := Held.run ⟨c, disk⟩ steps
    ["x", "y", "z"].map (held.config.sectionNamed "s").text? == [some "4", some "3", some "2"]
      && held.config.sectionNames == ["DEFAULT", "s", "t"]) (by decide +kernel)
  have hfound := Bool.and_eq_true_iff.1 hfound
  exact ⟨c, hc, sections_layered hc steps, eq_of_beq hfound.1, eq_of_beq hfound.2⟩

end Config

end Testbed
