import Testbed.Proofs.Config.Following
import Testbed.Proofs.Config.Notice

/-!
# Readings that fail

A reading fails at the first candidate that is seen to be a file and cannot be understood – the
system does not let it be opened, it is not text, the text is not TOML – however many were read
before it (`read_eq_error_iff`). What the earlier ones gave is in sections that are not the
configuration's yet: these are replaced, together with the list of what was read, when the last
candidate is through. So a reading that fails changes nothing.

A candidate that is *not* seen to be a file is no reason to fail, whatever there is. That is meant
for paths under which there is nothing, but it is also what becomes of a file in a directory that
may no longer be searched: the reading succeeds, and what the file had said is gone
(`unseen_file_passed_over`).

To say so, a call has to be something that could have changed the configuration before it failed.
`Mutation` is that: it works on the configuration in place, and what it has changed by then stays
changed. `Step.inPlace` carries out the calls in this way, assignment by assignment, and
`called_read` and `called_reload` say that this amounts to `Config.read` and `Config.reload`, with
the configuration left as it was where these give an error.

What keeps a failed reading from being forgotten is that the times on the list are those of the last
success. As long as one of the files shows another time than there, every reload reads.
-/

namespace Testbed

namespace Disk

/-- **A file that cannot be understood**, with the error that it is. It is seen to be a file in
every case; what cannot be read because it is out of sight is not meant. -/
inductive Faulty (disk : Disk) (path : String) : ControlError → Prop
  /-- It may not be opened. -/
  | unreadable {fault : String} {modified : Int}
      (h : disk path = some (.unreadable fault modified)) : Faulty disk path (.io fault)
  /-- It is not text. -/
  | notText {content : List UInt8} {modified : Int} (h : disk path = some (.file content modified))
      (hdecode : Text.Utf8.decode? content = none) : Faulty disk path badEncoding
  /-- Its text is not TOML. -/
  | notToml {content : List UInt8} {modified : Int} {text : String} {fault : Toml.Fault}
      (h : disk path = some (.file content modified))
      (hdecode : Text.Utf8.decode? content = some text) (hread : Toml.read text = .error fault) :
      Faulty disk path (.config (.toml fault (some path)))

/-- **Where a reading of some candidates stops**: at the first of them that cannot be understood.
The candidates before it may be files that can be read, or be passed over. -/
def StopsWith (disk : Disk) (files : List String) (e : ControlError) : Prop :=
  ∃ before path after, files = before ++ path :: after
    ∧ (∀ other ∈ before, ∀ e', ¬ disk.Faulty other e') ∧ disk.Faulty path e

/-- **What is under a path cannot be read as a file.** Only the first of the reasons makes a reading
fail. -/
inductive Unreadable (disk : Disk) (path : String) : Prop
  /-- It may not be opened. -/
  | closed {fault : String} {modified : Int} (h : disk path = some (.unreadable fault modified))
  /-- It may not be looked at. -/
  | hidden (h : disk path = some .hidden)
  /-- It is a directory. -/
  | directory {modified : Int} (h : disk path = some (.directory modified))

variable {disk : Disk} {path : String} {e : ControlError} {files : List String}

theorem readToml_eq_error_iff : disk.readToml path = .error e ↔ disk.Faulty path e := by
  constructor
  · intro h
    unfold readToml at h
    split at h
    · rename_i content modified hpath
      split at h
      · rename_i hdecode
        cases h
        exact .notText hpath hdecode
      · rename_i text hdecode
        split at h
        · rename_i fault hread
          cases h
          exact .notToml hpath hdecode hread
        · cases h
    · rename_i hpath
      cases h
      exact .unreadable hpath
    all_goals cases h
  · intro h
    unfold readToml
    cases h with
    | unreadable h => rw [h]
    | notText h hdecode =>
      rw [h]
      simp only [hdecode]
    | notToml h hdecode hread =>
      rw [h]
      simp only [hdecode, hread]

/-- A candidate that can be understood does not stop a reading. It may be missing, or be read. -/
theorem stopsWith_cons (h : ∀ e', ¬ disk.Faulty path e') :
    disk.StopsWith (path :: files) e ↔ disk.StopsWith files e := by
  constructor
  · rintro ⟨before, stop, after, hfiles, hbefore, hfaulty⟩
    cases before with
    | nil =>
      obtain ⟨rfl, -⟩ := List.cons.inj hfiles
      exact absurd hfaulty (h e)
    | cons first before =>
      obtain ⟨-, rfl⟩ := List.cons.inj hfiles
      exact ⟨before, stop, after, rfl, fun o ho => hbefore o (List.mem_cons_of_mem _ ho), hfaulty⟩
  · rintro ⟨before, stop, after, rfl, hbefore, hfaulty⟩
    exact ⟨path :: before, stop, after, rfl, List.forall_mem_cons.mpr ⟨h, hbefore⟩, hfaulty⟩

/-- One that cannot does. Those behind it are not looked at. -/
theorem stopsWith_cons_of_faulty (h : disk.Faulty path e) {e' : ControlError} :
    disk.StopsWith (path :: files) e' ↔ disk.Faulty path e' := by
  constructor
  · rintro ⟨before, stop, after, hfiles, hbefore, hfaulty⟩
    cases before with
    | nil =>
      obtain ⟨rfl, -⟩ := List.cons.inj hfiles
      exact hfaulty
    | cons first before =>
      obtain ⟨rfl, -⟩ := List.cons.inj hfiles
      exact absurd h (hbefore path List.mem_cons_self e)
  · exact fun h => ⟨[], path, files, rfl, List.forall_mem_nil _, h⟩

/-- A reading stops somewhere if any candidate cannot be understood. It need not be that candidate,
as another may come before it. -/
theorem exists_stopsWith (hpath : path ∈ files) (h : disk.Faulty path e) :
    ∃ e', disk.StopsWith files e' := by
  induction files with
  | nil => cases hpath
  | cons first rest ih =>
    by_cases hfirst : ∃ e', disk.Faulty first e'
    · obtain ⟨e', hfirst⟩ := hfirst
      exact ⟨e', (stopsWith_cons_of_faulty hfirst).mpr hfirst⟩
    · have hsound := not_exists.mp hfirst
      obtain rfl | hrest := List.mem_cons.mp hpath
      · exact absurd h (hsound e)
      · obtain ⟨e', hrest⟩ := ih hrest
        exact ⟨e', (stopsWith_cons hsound).mpr hrest⟩

end Disk

namespace Config

variable {disk now : Disk} {c : Config} {files : List String} {e : ControlError}

/-! ## Where a reading fails

A reading stops at the first candidate that is seen and cannot be understood, with the error of that
one. Candidates that are not seen to be files are passed. -/

theorem readFiles_eq_error_iff {s : Sections} {loaded : List (String × Int)} :
    readFiles disk files s loaded = .error e ↔ disk.StopsWith files e := by
  induction files generalizing s loaded with
  | nil =>
    refine iff_of_false nofun ?_
    rintro ⟨before, path, after, hfiles, -⟩
    cases before <;> cases hfiles
  | cons file rest ih =>
    unfold readFiles
    cases hfile : disk.readToml file with
    | error fault =>
      have hfaulty := Disk.readToml_eq_error_iff.mp hfile
      rw [Disk.stopsWith_cons_of_faulty hfaulty, ← Disk.readToml_eq_error_iff, hfile,
        Except.error.injEq]
      exact ⟨fun h => Except.error.inj h, fun h => congrArg Except.error h⟩
    | ok found =>
      have hsound : ∀ e', ¬ disk.Faulty file e' := fun e' h => by
        have herror := Disk.readToml_eq_error_iff.mpr h
        rw [hfile] at herror
        cases herror
      rw [Disk.stopsWith_cons hsound]
      cases found with
      | none => exact ih
      | some read => exact ih

/-- **A reading fails exactly at a candidate that cannot be understood**, and with the error of the
first. -/
theorem read_eq_error_iff : c.read disk = .error e ↔ disk.StopsWith c.files e := by
  have hfiles : readFiles disk c.files .empty [] = .error e ↔ disk.StopsWith c.files e :=
    readFiles_eq_error_iff
  rw [← hfiles]
  unfold read
  cases readFiles disk c.files .empty [] with
  | error fault =>
    rw [Except.error.injEq]
    exact ⟨fun h => Except.error.inj h, fun h => congrArg Except.error h⟩
  | ok r => exact iff_of_false nofun nofun

/-! ## Calls in place

A reading written as steps on a configuration that is changed where it stands. If the sections were
emptied before the files are read, a failure would leave them empty, so that nothing is changed by a
failure has to be proved and does not hold by itself. -/

/-- **A call that works on a configuration in place.** What it has changed when it fails stays
changed. -/
abbrev Mutation (α : Type) := ExceptT ControlError (StateM Config) α

/-- What was read replaces what the configuration has, the sections first and then the list, and
what was set in memory is laid over the sections one by one. -/
def adopt (overrides : Sections) :
    Except ControlError (Sections × List (String × Int)) → Mutation Unit
  | .error e => throw e
  | .ok (sections, loaded) => do
    modify fun c => { c with sections }
    modify fun c => { c with loaded }
    overrides.entries.forM fun e =>
      modify fun c => { c with sections := c.sections.overlay e.1 e.2 }

/-- All files are read, into sections and a list of their own, and what came of it is adopted. Only
`adopt` changes the configuration. -/
def readInPlace (disk : Disk) : Mutation Unit := do
  let c ← get
  adopt c.overrides (readFiles disk c.files .empty [])

/-- **A call in place.** It gives whether it has read the files. A reading assigns the sections
first and the list of what was read afterwards, and only when the last of the candidates has been
read. -/
def Step.inPlace : Step → Mutation Bool
  | set name values => do
    modify fun c => c.setSection name values
    return false
  | read disk => (fun _ => true) <$> readInPlace disk
  | reload disk => do
    let c ← get
    if c.hasChanged disk then (fun _ => true) <$> readInPlace disk else return false

/-- What a call on a configuration gives, and what it leaves of the configuration. The result says
whether the files were read, and if not, why. -/
def called (c : Config) (step : Step) : Except ControlError Bool × Config := step.inPlace.run.run c

/-- Sections that are laid over those of a configuration one by one. They are changed one by one,
and nothing else is. -/
theorem overlays_in_place (entries : List (String × Section)) (c : Config) :
    ((entries.forM fun e => modify fun c => { c with sections := c.sections.overlay e.1 e.2 } :
      Mutation Unit).run.run c)
      = (.ok (), { c with
          sections := entries.foldl (fun s e => s.overlay e.1 e.2) c.sections }) := by
  induction entries generalizing c with
  | nil => rfl
  | cons e rest ih => exact ih { c with sections := c.sections.overlay e.1 e.2 }

/-- **Reading in place is reading**, and it leaves the configuration alone if it fails. It relates
the reading in steps to the one that gives back a new configuration. -/
theorem readInPlace_eq (disk : Disk) (c : Config) :
    (readInPlace disk).run.run c = match c.read disk with
      | .ok after => (.ok (), after)
      | .error e => (.error e, c) := by
  show (adopt c.overrides (readFiles disk c.files .empty [])).run.run c = _
  unfold read
  cases readFiles disk c.files .empty [] with
  | error e => rfl
  | ok r => exact overlays_in_place c.overrides.entries _

theorem called_read (c : Config) (disk : Disk) :
    c.called (.read disk) = match c.read disk with
      | .ok after => (.ok true, after)
      | .error e => (.error e, c) := by
  show ((fun _ => true) <$> readInPlace disk).run.run c = _
  rw [ExceptT.run_map, StateT.run_map, readInPlace_eq]
  cases c.read disk with
  | error e => rfl
  | ok after => rfl

/-- A reload is a reading or nothing. In the first case even its failures are those of a reading. -/
theorem called_reload_of_changed (h : c.hasChanged disk = true) :
    c.called (.reload disk) = c.called (.read disk) := by
  show (if c.hasChanged disk then _ else _ : Mutation Bool).run.run c = _
  rw [if_pos h]
  rfl

theorem called_reload (c : Config) (disk : Disk) :
    c.called (.reload disk) = match c.reload disk with
      | .ok (changed, after) => (.ok changed, after)
      | .error e => (.error e, c) := by
  unfold reload
  cases h : c.hasChanged disk with
  | false =>
    show (if c.hasChanged disk then _ else _ : Mutation Bool).run.run c = _
    rw [if_neg (by rw [h]; exact Bool.false_ne_true), if_neg Bool.false_ne_true]
    rfl
  | true =>
    rw [called_reload_of_changed h, called_read, if_pos rfl]
    cases c.read disk with
    | error e => rfl
    | ok after => rfl

/-! ## Calls one after another

Nothing that happens between two readings changes the list of times, so a file that shows another
time goes on being read again until a reading succeeds. -/

/-- What calls one after another give. There is one for each call. -/
def results : Config → List Step → List (Except ControlError Bool)
  | _, [] => []
  | c, step :: rest => (c.called step).1 :: results (c.called step).2 rest

/-- What calls one after another leave of a configuration. What the calls gave is dropped. -/
def afterCalls (c : Config) (steps : List Step) : Config :=
  steps.foldl (fun c step => (c.called step).2) c

/-- Only a call that reads the files makes a new list of them. Setting values does not, and neither
does a failure. -/
theorem loaded_called {step : Step} (h : (c.called step).1 ≠ .ok true) :
    (c.called step).2.loaded = c.loaded := by
  cases step with
  | set name values => rfl
  | read disk =>
    rw [called_read] at h ⊢
    cases hread : c.read disk with
    | error e => rfl
    | ok after =>
      rw [hread] at h
      exact absurd rfl h
  | reload disk =>
    rw [called_reload] at h ⊢
    cases hreload : c.reload disk with
    | error e => rfl
    | ok r =>
      rw [hreload] at h
      obtain ⟨-, hchanged, -⟩ | ⟨-, -, hsame⟩ := reload_eq_ok_iff.mp hreload
      · exact absurd (congrArg Except.ok hchanged) h
      · exact congrArg Config.loaded hsame

/-- The list is the same for as long as no call has read the files. The condition is on what the
calls gave, and so on something that their caller sees. -/
theorem loaded_afterCalls {steps : List Step} (h : ∀ result ∈ c.results steps, result ≠ .ok true) :
    (c.afterCalls steps).loaded = c.loaded := by
  induction steps generalizing c with
  | nil => rfl
  | cons step rest ih =>
    obtain ⟨hstep, hrest⟩ := List.forall_mem_cons.mp h
    exact (ih hrest).trans (loaded_called hstep)

theorem hasChanged_of_time {known : String × Int} (hknown : known ∈ c.loaded) {time : Int}
    (hnow : now.modified? known.1 = some time) (htime : time ≠ known.2) :
    c.hasChanged now = true := by
  refine List.any_eq_true.mpr ⟨known, hknown, ?_⟩
  simp only [hnow, Option.any_some, bne_iff_ne]
  exact htime

/-- A reading does not say that nothing has changed. It reads, or it fails. -/
theorem called_read_ne (c : Config) (disk : Disk) : (c.called (.read disk)).1 ≠ .ok false := by
  rw [called_read]
  cases c.read disk with
  | error e => exact nofun
  | ok after => exact nofun

end Config

/-- The watcher's reload is the call on the configuration. Nothing else of the watch is changed by
it. -/
theorem Watch.reload_eq (disk : Disk) (w : Watch) :
    w.reload disk
      = let r := w.config.called (.reload disk); (r.1, { w with config := r.2 }) := by
  unfold reload
  rw [Config.called_reload]
  cases w.config.reload disk with
  | error e => rfl
  | ok r => rfl

/-- A look that fails counts nothing. It goes on watching as long as it is followed. -/
theorem Watch.poll_settles {disk : Disk} {w : Watch} {e : ControlError}
    (h : w.config.called (.reload disk) = (.error e, w.config)) :
    (poll disk).Settles w (.error e) { w with watching := w.following } := by
  have hreload : w.reload disk = (.error e, w) := by
    rw [reload_eq, h]
  have hread := Process.settles_atomically (Q := Call) (R := fun _ => Answer) (reload disk) w
  rw [hreload] at hread
  exact hread.andThen ((Process.settles_pure () w).andThen
    ((Process.settles_change _ w).andThen (Process.settles_pure _ _)))

namespace Config

variable {disk : Disk} {c : Config} {e : ControlError} {path : String}

/-- Reloads are readings as long as some file that was read last shows another time than then. How
many of them failed before does not matter. -/
theorem reload_retries {known : String × Int} (hknown : known ∈ c.loaded) {steps : List Step}
    {now : Disk} {time : Int} (hnone : ∀ result ∈ c.results steps, result ≠ .ok true)
    (hnow : now.modified? known.1 = some time) (htime : time ≠ known.2) :
    let later := c.afterCalls steps
    later.called (.reload now) = later.called (.read now)
      ∧ (later.called (.reload now)).1 ≠ .ok false := by
  intro later
  have hlist : known ∈ later.loaded := by
    rw [loaded_afterCalls hnone]
    exact hknown
  have hreads := called_reload_of_changed (hasChanged_of_time hlist hnow htime)
  exact ⟨hreads, hreads ▸ called_read_ne later now⟩

/-- **What is not seen to be a file is passed over**: it is as if it were no candidate. The
candidates are remembered all the same, and are looked for again at the next reading. -/
theorem read_eq_read_filter (c : Config) (disk : Disk) :
    c.read disk = (read disk { c with files := c.files.filter disk.isFile }).map
      fun after => { after with files := c.files } := by
  unfold read
  rw [readFiles_filter]
  cases readFiles disk c.files .empty [] <;> rfl

/-- **A reading that fails is harmless, and is tried again.** Let a candidate be seen to be a file
and not be understood, whichever of them it is.

- A reading gives the error of the first such candidate and leaves the configuration as it was. So
  does a reload if there is anything to read, and the watcher goes on without counting it.
- From then on, whatever is set in memory and whatever else fails, every reload is a reading as long
  as some file that was read last shows another time than it had then – until one of the calls has
  read the files. None of these reloads says that nothing has changed.

The other candidates do not matter: a reading passes over what is not seen to be a file. -/
theorem failed_reading_retried (c : Config) (disk : Disk) :
    (∀ path ∈ c.files, ∀ e, disk.Faulty path e →
      ∃ fault, disk.StopsWith c.files fault
        ∧ c.called (.read disk) = (.error fault, c)
        ∧ (c.hasChanged disk = true → c.called (.reload disk) = (.error fault, c)
          ∧ ∀ w : Watch, w.config = c →
            (Watch.poll disk).Settles w (.error fault) { w with watching := w.following })
        ∧ ∀ known ∈ c.loaded, ∀ steps now time, (∀ result ∈ c.results steps, result ≠ .ok true) →
          now.modified? known.1 = some time → time ≠ known.2 →
            let later := c.afterCalls steps
            later.called (.reload now) = later.called (.read now)
              ∧ (later.called (.reload now)).1 ≠ .ok false)
      ∧ c.read disk = (read disk { c with files := c.files.filter disk.isFile }).map
        fun after => { after with files := c.files } := by
  refine ⟨fun path hpath e hfaulty => ?_, c.read_eq_read_filter disk⟩
  obtain ⟨fault, hstops⟩ := Disk.exists_stopsWith hpath hfaulty
  have hread : c.called (.read disk) = (.error fault, c) := by
    rw [called_read, read_eq_error_iff.mpr hstops]
  refine ⟨fault, hstops, hread, fun hchanged => ?_, fun known hknown steps now time => ?_⟩
  · have hreload := (called_reload_of_changed hchanged).trans hread
    refine ⟨hreload, ?_⟩
    rintro w rfl
    exact Watch.poll_settles hreload
  · exact reload_retries hknown

/-- Both files are edited, the second one badly. The reload fails at it, and so does the next one
after a change in memory; when the second file is put right, the reload reads, because the first one
still has its new time. -/
theorem edited_badly_retried :
    let disk := Disk.ofTexts [("a", "x = 1\n", 0), ("b", "y = 1\n", 0)]
    let broken := Disk.ofTexts [("a", "x = 2\n", 60), ("b", "y = \n", 60)]
    let now := Disk.ofTexts [("a", "x = 2\n", 60), ("b", "y = 2\n", 60)]
    let steps := [.reload broken, .set "s" (Dict.ofList [("z", .int 3)]), .reload broken]
    ∃ c fault, fromFiles disk ["a", "b"] = .ok c ∧ broken.StopsWith c.files fault
      ∧ c.called (.reload broken) = (.error fault, c)
      ∧ (let later := c.afterCalls steps
        later.called (.reload now) = later.called (.read now)
          ∧ (later.called (.reload now)).1 ≠ .ok false
          ∧ ((later.called (.reload now)).2.sectionNamed "s").text? "y" = some "2") := by
  intro disk broken now steps
  have ⟨c, hc, hfound⟩ := exists_ok_of_any (x := fromFiles disk ["a", "b"]) (p := fun c =>
    c.files == ["a", "b"] && c.loaded.contains ("a", 0) && c.hasChanged broken
      && (c.results steps).all (fun result => !Watch.isReload result)
      && (((c.afterCalls steps).called (.reload now)).2.sectionNamed "s").text? "y" == some "2")
    (by decide +kernel)
  simp only [Bool.and_eq_true, beq_iff_eq, List.contains_iff_mem, List.all_eq_true,
    Bool.not_eq_true'] at hfound
  obtain ⟨⟨⟨⟨hfiles, hlist⟩, hchanged⟩, hnone⟩, hread⟩ := hfound
  have hfaulty : broken.Faulty "b" (.config (.toml .malformed (some "b"))) :=
    .notToml rfl (by rfl : _ = some "y = \n") (by rfl)
  obtain ⟨fault, hstops, -, hfails, hretried⟩ :=
    (failed_reading_retried c broken).1 "b" (by rw [hfiles]; decide) _ hfaulty
  have hnone' : ∀ result ∈ c.results steps, result ≠ .ok true := by
    rintro _ hresult rfl
    exact Bool.noConfusion (hnone _ hresult)
  obtain ⟨hreads, hnews⟩ := hretried ("a", 0) hlist steps now 60 hnone' rfl (by decide)
  exact ⟨c, fault, hc, hstops, (hfails hchanged).1, hreads, hnews, hread⟩

/-- **A file out of sight does not make a reading fail**, although it is a candidate and cannot be
read. One of two files goes out of sight, or a directory takes its place; the next reading succeeds,
and the section of that file is gone. -/
theorem unseen_file_passed_over :
    let disk := Disk.ofTexts [("a", "[s]\nx = 1\n", 0), ("b", "[t]\ny = 1\n", 0)]
    let altered (entry : DiskEntry) : Disk := fun path =>
      if path = "b" then some entry else disk path
    ∃ c, fromFiles disk ["a", "b"] = .ok c ∧ c.files = ["a", "b"] ∧ c.hasSection "t" = true
      ∧ ∀ entry ∈ [DiskEntry.hidden, .directory 60], (altered entry).Unreadable "b"
        ∧ ∃ after, c.called (.read (altered entry)) = (.ok true, after)
          ∧ after.loadedFiles = ["a"] ∧ after.hasSection "t" = false := by
  intro disk altered
  have ⟨c, hc, hfound⟩ := exists_ok_of_any (x := fromFiles disk ["a", "b"]) (p := fun c =>
    c.files == ["a", "b"] && c.hasSection "t"
      && [DiskEntry.hidden, .directory 60].all (fun entry => (c.read (altered entry)).toOption.any
        (fun after => after.loadedFiles == ["a"] && !after.hasSection "t")))
    (by decide +kernel)
  obtain ⟨hfound, hread⟩ := Bool.and_eq_true_iff.mp hfound
  obtain ⟨hfiles, hsection⟩ := Bool.and_eq_true_iff.mp hfound
  refine ⟨c, hc, eq_of_beq hfiles, hsection, fun entry hentry => ⟨?_, ?_⟩⟩
  · obtain rfl | rfl : entry = .hidden ∨ entry = .directory 60 := by simpa using hentry
    · exact .hidden rfl
    · exact .directory rfl
  · obtain ⟨after, hafter, hleft⟩ := exists_ok_of_any (List.all_eq_true.mp hread entry hentry)
    obtain ⟨hloaded, hgone⟩ := Bool.and_eq_true_iff.mp hleft
    refine ⟨after, ?_, eq_of_beq hloaded, by simpa using hgone⟩
    rw [called_read, hafter]

end Config

end Testbed
