import Testbed.Proofs.Config.Course

/-!
# Which changes are noticed

A configuration is read again if one of its files has changed, and a change is seen by the time of a
file's last modification. That is enough for the files it has read: on a disk where nothing is
removed or put out of sight and whatever is written gets a time of its own, a reload takes place
exactly if one of them is not what it was at the last successful reading, whatever was read, failed
or set in memory since.

A candidate that was no file at that reading is another matter. It is not on the list of what was
read, nothing looks for it, and its creation goes unnoticed until one of the others changes
(`new_file_unnoticed`). What holds is that a configuration after a reload is up to date with regard
to the files it knows, and altogether if none has come up (`reload_notices`).

The list has each file once, however often and in whatever spelling it is a candidate, which is why
the disks here are such that two spellings of a path do not lead to two things.
-/

namespace Testbed

namespace Disk

/-- Two spellings of a path do not lead to two things. Otherwise it would depend on the spelling
which of the two is meant. -/
def Coherent (disk : Disk) : Prop :=
  ∀ ⦃path other e e'⦄, FilePath.components path = FilePath.components other →
    disk path = some e → disk other = some e' → e = e'

/-- **A disk at a later time**: nothing is removed or put out of sight, and what is written gets a
new time. A file may be emptied or made a directory, but it stays something that can be looked at,
and any change of what is under a path shows in its time. -/
def Later (before after : Disk) : Prop :=
  ∀ ⦃path e⦄, before path = some e →
    ∃ e', after path = some e' ∧ (e.modified?.isSome = true → e'.modified?.isSome = true)
      ∧ (e'.modified? = e.modified? → e' = e)

variable {disk before after : Disk} {path : String}

theorem isFile_eq_true_iff :
    disk.isFile path = true ↔ ∃ e, disk path = some e ∧ e.isFile = true := by
  unfold isFile
  rw [Option.any_eq_true]

/-- **There is nothing to read exactly where there is no file.** A file is read, or it is an error
that it cannot be. -/
theorem readToml_eq_none_iff : disk.readToml path = .ok none ↔ disk.isFile path = false := by
  unfold readToml isFile
  cases disk path with
  | none => exact iff_of_true rfl rfl
  | some e =>
    cases e with
    | hidden | directory | special => exact iff_of_true rfl rfl
    | unreadable => exact iff_of_false nofun nofun
    | file content modified =>
      refine iff_of_false (fun h => ?_) nofun
      simp only at h
      split at h
      · cases h
      · split at h
        · cases h
        · cases h

/-- What is read is a file, and comes with its time. The time is the one that is noted. -/
theorem of_readToml {table : Dict String Toml} {modified : Int}
    (h : disk.readToml path = .ok (some (table, modified))) :
    ∃ e, disk path = some e ∧ e.isFile = true ∧ e.modified? = some modified := by
  unfold readToml at h
  split at h
  · rename_i content time hpath
    refine ⟨_, hpath, rfl, ?_⟩
    split at h
    · cases h
    · split at h
      · cases h
      · exact congrArg some (Prod.mk.inj (Option.some.inj (Except.ok.inj h))).2
  all_goals cases h

/-- What is on a disk with some texts. Everything on it is a file. -/
theorem mem_of_ofTexts {texts : List (String × String × Int)} {e : DiskEntry}
    (h : ofTexts texts path = some e) :
    ∃ text modified, texts.lookup path = some (text, modified)
      ∧ (path, text, modified) ∈ texts ∧ e = .file (Text.Utf8.encode text) modified := by
  have ⟨(text, modified), hlookup, he⟩ := Option.map_eq_some_iff.1 h
  obtain ⟨before, after, rfl, _⟩ := List.lookup_eq_some_iff.1 hlookup
  exact ⟨text, modified, hlookup, List.mem_append_right _ List.mem_cons_self, he.symm⟩

theorem coherent_ofTexts {texts : List (String × String × Int)}
    (h : ∀ a ∈ texts, ∀ b ∈ texts, FilePath.components a.1 = FilePath.components b.1 → a.1 = b.1) :
    (ofTexts texts).Coherent := by
  intro path other e e' hsame he he'
  have ⟨_, _, _, hmem, _⟩ := mem_of_ofTexts he
  have ⟨_, _, _, hmem', _⟩ := mem_of_ofTexts he'
  obtain rfl : path = other := h _ hmem _ hmem' hsame
  exact Option.some.inj (he.symm.trans he')

theorem later_ofTexts {old new : List (String × String × Int)}
    (h : ∀ a ∈ old, (new.lookup a.1).any (fun b => b.2 != a.2.2 || b.1 == a.2.1) = true) :
    (ofTexts old).Later (ofTexts new) := by
  intro path e he
  have ⟨text, modified, _, hmem, he⟩ := mem_of_ofTexts he
  have ⟨(text', modified'), hlookup, hdated⟩ := (Option.any_eq_true _ _).1 (h _ hmem)
  refine ⟨.file (Text.Utf8.encode text') modified', by unfold ofTexts; rw [hlookup]; rfl,
    fun _ => rfl, ?_⟩
  subst he
  intro (hsame : some modified' = some modified)
  obtain rfl := Option.some.inj hsame
  have htext : text' = text := by simpa using hdated
  rw [htext]

/-- What a reading of a path gives depends on nothing else. In particular not on other paths of the
disk. -/
theorem readToml_congr (h : before path = after path) :
    before.readToml path = after.readToml path := by
  unfold readToml
  rw [h]

end Disk

namespace Config

variable {disk last now : Disk} {c c' : Config} {files : List String}
  {loaded : List (String × Int)}

/-! ## The list of what was read

The list has one entry for each file that was read, under one of its spellings and with the time
that the disk shows for it. This is established along the reading, candidate by candidate. -/

/-- The paths of a list, whatever their spelling. Two spellings of one path have one entry. -/
def paths (loaded : List (String × Int)) : List (List (List Char)) :=
  loaded.map (fun known => FilePath.components known.1)

/-- **A list of files is right about a disk**, among some candidates. There are no other files on
the list than those that were files on the disk, and each has the time that it had there. -/
structure Noted (disk : Disk) (files : List String) (loaded : List (String × Int)) : Prop where
  /-- It lists candidates that are files, with their times. -/
  sound : ∀ known ∈ loaded, known.1 ∈ files
    ∧ ∃ e, disk known.1 = some e ∧ e.isFile = true ∧ e.modified? = some known.2
  /-- It lists each of them, in one of its spellings. -/
  complete : ∀ file ∈ files, disk.isFile file = true → FilePath.components file ∈ paths loaded

/-- A note adds its path. An entry that is there already gets the new time. -/
theorem mem_paths_note {path : String} {modified : Int} {components : List (List Char)} :
    components ∈ paths (note path modified loaded)
      ↔ components = FilePath.components path ∨ components ∈ paths loaded := by
  unfold paths
  induction loaded with
  | nil => simp [note]
  | cons first rest ih =>
    unfold note
    split
    · rename_i hsame
      simp [hsame]
    · rw [List.map_cons, List.mem_cons, ih, List.map_cons, List.mem_cons, or_left_comm]

/-- What a note leaves on the list was there, or has the time of the note and a spelling of its
path. -/
theorem mem_note {path : String} {modified : Int} {known : String × Int}
    (h : known ∈ note path modified loaded) :
    known ∈ loaded ∨ known.2 = modified ∧ FilePath.components known.1 = FilePath.components path
      ∧ (known.1 = path ∨ ∃ before ∈ loaded, known.1 = before.1) := by
  induction loaded with
  | nil =>
    obtain rfl := List.mem_singleton.1 h
    exact .inr ⟨rfl, rfl, .inl rfl⟩
  | cons first rest ih =>
    unfold note at h
    split at h
    · rename_i hsame
      obtain rfl | h := List.mem_cons.1 h
      · exact .inr ⟨rfl, hsame, .inr ⟨first, List.mem_cons_self, rfl⟩⟩
      · exact .inl (List.mem_cons_of_mem _ h)
    · obtain rfl | h := List.mem_cons.1 h
      · exact .inl List.mem_cons_self
      · refine (ih h).imp (List.mem_cons_of_mem _) (And.imp_right (And.imp_right (Or.imp_right ?_)))
        exact fun ⟨before, hmem, hbefore⟩ => ⟨before, List.mem_cons_of_mem _ hmem, hbefore⟩

/-- A list is still right with another candidate that is no file. Nothing is noted of it, so it is
not watched. -/
theorem Noted.skip {path : String} (h : Noted disk files loaded)
    (hpath : disk.isFile path = false) : Noted disk (files ++ [path]) loaded where
  sound known hmem := ⟨List.mem_append_left _ (h.sound known hmem).1, (h.sound known hmem).2⟩
  complete file hmem hfile := by
    obtain hmem | hmem := List.mem_append.1 hmem
    · exact h.complete file hmem hfile
    · rw [List.mem_singleton.1 hmem, hpath] at hfile
      cases hfile

/-- It is right with another one that is, when that was noted. A spelling that is on the list
already gets the time of the new one, which is its own, since both lead to the same. -/
theorem Noted.note {path : String} {e : DiskEntry} {modified : Int}
    (h : Noted disk files loaded) (hcoherent : disk.Coherent) (hpath : disk path = some e)
    (hfile : e.isFile = true) (hmodified : e.modified? = some modified) :
    Noted disk (files ++ [path]) (Config.note path modified loaded) where
  sound known hmem := by
    obtain hmem | ⟨htime, hsame, rfl | ⟨before, hmem, hbefore⟩⟩ := mem_note hmem
    · exact ⟨List.mem_append_left _ (h.sound known hmem).1, (h.sound known hmem).2⟩
    · exact ⟨List.mem_append_right _ (List.mem_singleton.2 rfl), e, hpath, hfile,
        htime ▸ hmodified⟩
    · have ⟨hcandidate, e', he', hfile', _⟩ := h.sound before hmem
      rw [← hbefore] at hcandidate he'
      rw [← hcoherent hsame he' hpath] at hmodified
      exact ⟨List.mem_append_left _ hcandidate, e', he', hfile', htime ▸ hmodified⟩
  complete file hmem hfile := by
    rw [mem_paths_note]
    obtain hmem | hmem := List.mem_append.1 hmem
    · exact .inr (h.complete file hmem hfile)
    · rw [List.mem_singleton.1 hmem]
      exact .inl rfl

/-- A reading keeps the list right about all that it has passed. The candidates are passed in their
order. -/
theorem Noted.readFiles {rest : List String} {s : Sections} {r : Sections × List (String × Int)}
    (h : Noted disk files loaded) (hcoherent : disk.Coherent)
    (hread : readFiles disk rest s loaded = .ok r) : Noted disk (files ++ rest) r.2 := by
  induction rest generalizing files s loaded with
  | nil =>
    obtain rfl : (s, loaded) = r := Except.ok.inj hread
    rwa [List.append_nil]
  | cons path rest ih =>
    unfold Config.readFiles at hread
    rw [show files ++ path :: rest = (files ++ [path]) ++ rest from by rw [List.append_assoc]; rfl]
    cases hpath : disk.readToml path with
    | error fault => rw [hpath] at hread; cases hread
    | ok found =>
      rw [hpath] at hread
      cases found with
      | none => exact ih (h.skip (Disk.readToml_eq_none_iff.1 hpath)) hread
      | some read =>
        obtain ⟨e, he, hfile, hmodified⟩ := Disk.of_readToml hpath
        exact ih (h.note hcoherent he hfile hmodified) hread

/-- What a configuration has on its list is right about the disk it holds. It is the fact about
readings, with the disk that was read last. -/
theorem Holds.noted (h : Holds last c) (hcoherent : last.Coherent) :
    Noted last c.files c.loaded := by
  have ⟨_, hread, _⟩ := read_eq_ok_iff.1 h
  have hnone : Noted last [] [] := ⟨nofun, nofun⟩
  exact hnone.readFiles hcoherent hread

/-! ## Changes

A look at the times of the files on the list stands for a comparison of disks, as far as a change of
content comes with another time. What came into being since is not on the list. -/

theorem hasChanged_eq_false_iff :
    c.hasChanged now = false
      ↔ ∀ known ∈ c.loaded, ∀ time, now.modified? known.1 = some time → time = known.2 := by
  unfold hasChanged
  rw [List.any_eq_false]
  refine forall₂_congr (fun known _ => ?_)
  cases hnow : now.modified? known.1 with
  | none => simp [hnow]
  | some time => simp [hnow]

/-- **A change is seen exactly if a file is not what it was when it was read.** From left to right
it needs that whatever was written got a new time, and from right to left only that what is the same
has the same time. -/
theorem Holds.hasChanged_iff (h : Holds last c) (hlast : last.Coherent) (hnow : now.Coherent)
    (hlater : last.Later now) :
    c.hasChanged now = false
      ↔ ∀ file ∈ c.files, last.isFile file = true → now file = last file := by
  have hnoted := h.noted hlast
  rw [hasChanged_eq_false_iff]
  constructor
  · intro hsame file hmem hfile
    have ⟨known, hknown, hpath⟩ := List.mem_map.1 (hnoted.complete file hmem hfile)
    have ⟨_, e, he, _, htime⟩ := hnoted.sound known hknown
    have ⟨_, hfile, _⟩ := Disk.isFile_eq_true_iff.1 hfile
    obtain rfl := hlast hpath he hfile
    -- both spellings lead to one thing, before and now, so the one on the list speaks for the other
    have ⟨e', he', hseen, hdated⟩ := hlater he
    have ⟨f', hf', _⟩ := hlater hfile
    obtain rfl := hnow hpath he' hf'
    -- it has not been put out of sight, so its time can be told, and it is the one on the list
    have ⟨time, htold⟩ := Option.isSome_iff_exists.1 (hseen (by rw [htime]; rfl))
    have hnoticed : time = known.2 :=
      hsame known hknown time (by rw [Disk.modified?, he', Option.bind_some, htold])
    rw [hf', hfile, hdated (by rw [htold, htime, hnoticed])]
  · intro hsame known hknown time htold
    have ⟨hmem, e', he', hfile, htime⟩ := hnoted.sound known hknown
    have hstill := hsame known.1 hmem (Disk.isFile_eq_true_iff.2 ⟨e', he', hfile⟩)
    rw [Disk.modified?, hstill, he', Option.bind_some, htime] at htold
    exact (Option.some.inj htold).symm

/-- A reading depends on what is read of the candidates only. So a change elsewhere on the disk does
not matter. -/
theorem readFiles_congr {s : Sections}
    (h : ∀ file ∈ files, last.readToml file = now.readToml file) :
    readFiles last files s loaded = readFiles now files s loaded := by
  induction files generalizing s loaded with
  | nil => rfl
  | cons file rest ih =>
    unfold readFiles
    have hrest : ∀ s loaded, readFiles last rest s loaded = readFiles now rest s loaded :=
      fun _ _ => ih (fun file hmem => h file (List.mem_cons_of_mem _ hmem))
    simp only [h file List.mem_cons_self, hrest]

/-- Candidates that are no files may be left out. It makes no difference whether a candidate is
missing or was never named. -/
theorem readFiles_filter {s : Sections} :
    readFiles disk (files.filter disk.isFile) s loaded = readFiles disk files s loaded := by
  induction files generalizing s loaded with
  | nil => rfl
  | cons file rest ih =>
    cases hfile : disk.isFile file with
    | false =>
      rw [List.filter_cons_of_neg (by rw [hfile]; exact Bool.false_ne_true), ih]
      conv_rhs => unfold readFiles
      rw [Disk.readToml_eq_none_iff.2 hfile]
      rfl
    | true =>
      rw [List.filter_cons_of_pos hfile]
      unfold readFiles
      simp only [ih]

/-- A configuration holds what another disk says just as well, if the candidates are the same
there. -/
theorem Holds.congr (h : Holds last c)
    (hsame : ∀ file ∈ c.files, last.readToml file = now.readToml file) : Holds now c := by
  have ⟨base, hread, hrest⟩ := read_eq_ok_iff.1 h
  exact read_eq_ok_iff.2 ⟨base, readFiles_congr hsame ▸ hread, hrest⟩

/-- It holds what the disk says without the candidates that were no files there. In this form the
disk may change where those candidates are. -/
theorem Holds.filter (h : Holds last c) :
    Holds last { c with files := c.files.filter last.isFile } := by
  have ⟨base, hread, _, _, hsections⟩ := read_eq_ok_iff.1 h
  exact read_eq_ok_iff.2 ⟨base, readFiles_filter.trans hread, rfl, rfl, hsections⟩

/-- **A reload without a change is up to date with the files it knows.** The candidates that were no
files are left out of the configuration here, as nothing is known of them. -/
theorem Holds.of_unchanged (h : Holds last c)
    (hsame : ∀ file ∈ c.files, last.isFile file = true → now file = last file) :
    Holds now { c with files := c.files.filter last.isFile } := by
  refine h.filter.congr (fun file hmem => Disk.readToml_congr ?_)
  have ⟨hmem, hfile⟩ := List.mem_filter.1 hmem
  exact (hsame file hmem hfile).symm

/-- It is up to date altogether if no candidate has become a file. The second condition is what
nobody looks at. -/
theorem Holds.of_unchanged_of_no_new (h : Holds last c)
    (hsame : ∀ file ∈ c.files, last.isFile file = true → now file = last file)
    (hnew : ∀ file ∈ c.files, now.isFile file = true → last.isFile file = true) : Holds now c := by
  refine h.congr (fun file hmem => ?_)
  by_cases hfile : last.isFile file = true
  · exact Disk.readToml_congr (hsame file hmem hfile).symm
  · have hstill : now.isFile file = false :=
      Bool.eq_false_iff.2 (fun hnow => hfile (hnew file hmem hnow))
    rw [Disk.readToml_eq_none_iff.2 (Bool.eq_false_iff.2 hfile),
      Disk.readToml_eq_none_iff.2 hstill]

/-! ## Histories

What a call notices at the end of a history, from what the disks along it say. A file that was no
file at the last reading remains unnoticed until something else changes. -/

/-- The disk that was read last is one of those that the calls saw. A call that fails, or that finds
nothing changed, leaves it as it was. -/
theorem Held.disk_after (held : Held) (step : Step) :
    (held.after step).disk = held.disk ∨ some (held.after step).disk = step.disk? := by
  cases step with
  | set name values => exact .inl rfl
  | read disk =>
    cases hread : held.config.read disk with
    | error e => rw [after_read_error hread]; exact .inl rfl
    | ok c => rw [after_read hread]; exact .inr rfl
  | reload disk =>
    cases hreload : held.config.reload disk with
    | error e => rw [after_reload_error hreload]; exact .inl rfl
    | ok r =>
      rw [after_reload hreload]
      cases r.1 with
      | false => exact .inl rfl
      | true => exact .inr rfl

theorem Held.disk_run (held : Held) (steps : List Step) :
    (held.run steps).disk ∈ held.disk :: steps.filterMap Step.disk? := by
  induction steps generalizing held with
  | nil => exact List.mem_singleton.2 rfl
  | cons step rest ih =>
    show ((held.after step).run rest).disk ∈ _
    obtain h | h := List.mem_cons.1 (ih (held.after step))
    · obtain hsame | hseen := held.disk_after step
      · rw [h, hsame]
        exact List.mem_cons_self
      · rw [h, List.filterMap_cons_some hseen.symm]
        exact List.mem_cons_of_mem _ List.mem_cons_self
    · refine List.mem_cons_of_mem _ ?_
      cases hdisk : step.disk? with
      | none => rwa [List.filterMap_cons_none hdisk]
      | some disk =>
        rw [List.filterMap_cons_some hdisk]
        exact List.mem_cons_of_mem _ h

/-- **What a reload notices.** A configuration is made, and any calls follow, on disks each of which
is later than the ones before. Whenever a reload succeeds after that,

- it leaves the configuration alone exactly if every candidate that was a file at the last
  successful reading is what it was then;
- in that case the configuration is up to date with those candidates: to read them again under the
  same changes in memory would give the same;
- the configuration is up to date with all candidates if it was read again, and otherwise if none
  has become a file that was none at the last successful reading.

The first of the three is what users rely on, and the third is how far they may go: a configuration
may be out of date only with regard to a candidate that was created since. -/
theorem reload_notices (h : fromFiles disk files = .ok c) (steps : List Step)
    (hlater : (disk :: steps.filterMap Step.disk? ++ [now]).Pairwise Disk.Later)
    (hcoherent : ∀ d ∈ disk :: steps.filterMap Step.disk? ++ [now], d.Coherent) {changed : Bool}
    (hreload : (Held.run ⟨c, disk⟩ steps).config.reload now = .ok (changed, c')) :
    let last := (Held.run ⟨c, disk⟩ steps).disk
    (changed = false ↔ ∀ file ∈ files, last.isFile file = true → now file = last file)
      ∧ (changed = false → c' = (Held.run ⟨c, disk⟩ steps).config
        ∧ Holds now { c' with files := files.filter last.isFile })
      ∧ (changed = true ∨ (∀ file ∈ files, now.isFile file = true → last.isFile file = true) →
        Holds now c') := by
  intro last
  have hsound := (sound_of_fromFiles h).run steps
  have hlast : last ∈ disk :: steps.filterMap Step.disk? := Held.disk_run ⟨c, disk⟩ steps
  have hseen : last.Later now :=
    (List.pairwise_append.1 hlater).2.2 last hlast now (List.mem_singleton.2 rfl)
  have hfiles := hsound.files.symm
  have hchanged := hsound.holds.hasChanged_iff (hcoherent last (List.mem_append_left _ hlast))
    (hcoherent now (List.mem_append_right _ (List.mem_singleton.2 rfl))) hseen
  rw [hsound.files] at hchanged
  obtain ⟨hhas, rfl, hread⟩ | ⟨hhas, rfl, rfl⟩ := reload_eq_ok_iff.1 hreload
  · refine ⟨⟨nofun, fun hsame => ?_⟩, nofun, fun _ => holds_of_read hread⟩
    rw [hchanged.2 hsame] at hhas
    cases hhas
  · have hsame := hchanged.1 hhas
    refine ⟨iff_of_true rfl hsame, fun _ => ⟨rfl, ?_⟩, fun hnew => ?_⟩
    · rw [← hsound.files]
      exact hsound.holds.of_unchanged (hfiles ▸ hsame)
    · have hnew := hnew.resolve_left Bool.false_ne_true
      exact hsound.holds.of_unchanged_of_no_new (hfiles ▸ hsame) (hfiles ▸ hnew)

/-- A file that is changed is noticed after a reading failed, since the times of that reading were
not kept, and once it was read it is not noticed again. -/
theorem noticed_after_failure :
    let disk := Disk.ofTexts [("a", "x = 1\n", 0)]
    let broken := Disk.ofTexts [("a", "x = \n", 60)]
    let now := Disk.ofTexts [("a", "x = 2\n", 120)]
    ∃ c c', fromFiles disk ["a", "b"] = .ok c
      ∧ [disk, broken, now].Pairwise Disk.Later ∧ (∀ d ∈ [disk, broken, now], d.Coherent)
      ∧ (Held.run ⟨c, disk⟩ [.reload broken]).config.reload now = .ok (true, c')
      ∧ Holds now c' := by
  intro disk broken now
  have hlater : [disk, broken, now].Pairwise Disk.Later := by
    refine .cons (fun d hd => ?_) (.cons (fun d hd => ?_) (List.pairwise_singleton _ _))
    · obtain rfl | rfl : d = broken ∨ d = now := by simpa using hd
      · exact Disk.later_ofTexts (by decide +kernel)
      · exact Disk.later_ofTexts (by decide +kernel)
    · obtain rfl := List.mem_singleton.1 hd
      exact Disk.later_ofTexts (by decide +kernel)
  have hcoherent : ∀ d ∈ [disk, broken, now], d.Coherent := by
    intro d hd
    obtain rfl | rfl | rfl : d = disk ∨ d = broken ∨ d = now := by simpa using hd
    · exact Disk.coherent_ofTexts (by decide +kernel)
    · exact Disk.coherent_ofTexts (by decide +kernel)
    · exact Disk.coherent_ofTexts (by decide +kernel)
  have ⟨c, hc, hreloaded⟩ := exists_ok_of_any (x := fromFiles disk ["a", "b"]) (p := fun c =>
    ((Held.run ⟨c, disk⟩ [.reload broken]).config.reload now).toOption.any (·.1))
    (by decide +kernel)
  have ⟨(changed, c'), hreload, (hchanged : changed = true)⟩ := exists_ok_of_any hreloaded
  subst hchanged
  exact ⟨c, c', hc, hlater, hcoherent, hreload,
    (reload_notices hc [.reload broken] hlater hcoherent hreload).2.2 (.inl rfl)⟩

/-- **A candidate that is created is not noticed** while the others stay as they are, although
nothing is removed and it has a time of its own: the configuration is not read again, and goes on
without what a reading would find. -/
theorem new_file_unnoticed :
    let disk := Disk.ofTexts [("a", "[s]\nx = 1\n", 0)]
    let now := Disk.ofTexts [("a", "[s]\nx = 1\n", 0), ("b", "[s]\nx = 2\n", 60)]
    disk.Later now ∧ disk.Coherent ∧ now.Coherent
      ∧ ∃ c fresh, fromFiles disk ["a", "b"] = .ok c ∧ c.reload now = .ok (false, c)
        ∧ c.read now = .ok fresh ∧ fresh.sections ≠ c.sections
        ∧ (c.sectionNamed "s").text? "x" = some "1"
        ∧ (fresh.sectionNamed "s").text? "x" = some "2" := by
  intro disk now
  refine ⟨Disk.later_ofTexts (by decide +kernel), Disk.coherent_ofTexts (by decide +kernel),
    Disk.coherent_ofTexts (by decide +kernel), ?_⟩
  have ⟨c, hc, hfound⟩ := exists_ok_of_any (x := fromFiles disk ["a", "b"]) (p := fun c =>
    !c.hasChanged now && (c.sectionNamed "s").text? "x" == some "1"
      && (c.read now).toOption.any (fun fresh => (fresh.sectionNamed "s").text? "x" == some "2"))
    (by decide +kernel)
  have ⟨hfound, hread⟩ := Bool.and_eq_true_iff.1 hfound
  have ⟨hchanged, hold⟩ := Bool.and_eq_true_iff.1 hfound
  have ⟨fresh, hfresh, hnew⟩ := exists_ok_of_any hread
  have hold := eq_of_beq hold
  have hnew := eq_of_beq hnew
  refine ⟨c, fresh, hc, reload_eq_ok_iff.2 (.inr ⟨by simpa using hchanged, rfl, rfl⟩), hfresh,
    fun hsame => ?_, hold, hnew⟩
  have hsection : fresh.sectionNamed "s" = c.sectionNamed "s" := by
    unfold sectionNamed defaultSection
    rw [hsame]
  rw [hsection, hold] at hnew
  exact absurd (Option.some.inj hnew) (by decide)

end Config

end Testbed
