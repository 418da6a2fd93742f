import Testbed.Project
import Testbed.Proofs.Node.Replay
import Testbed.Proofs.Node.StagedUpdate
import Testbed.Proofs.ShownPath
import Testbed.Proofs.Uuid

/-!
# Where captures go

A capture is written by the engine, into a file that the node names to it: the caller's file name
below the directory of the node's project. Two things are expected of that name. The caller is told
the very path that the engine was told, and is told it only if the engine agreed (`HandsOver`). And
the captures of one project stay out of the way of every other project (`KeptApart`): the projects
of one root are parted by their identifiers, which are names without a separator, and file names
that do not step up never get back to where the projects part.

The second holds for every root, whatever bytes it is written with. The first does not. The caller
is given a path of the file system and the engine is given a text, the one that the path is shown
as; and what the engine takes that text for is the path that is retold, which is another one if no
text names the root. It is the file of the same project under the root as it is retold, so that the
engine keeps projects apart as well, only not where the caller looks for them.

The directory of a node is part of its identity, so all this holds all its life.
-/

namespace Testbed

open OsPath (Extends LiesIn LiesOutside extends_join ofText)

/-! ## The directories of projects

A project's directory has the identifier for its name, and its captures are two steps below. Under
one root two projects differ in the first of these names, which is why no file of one is in the
other. -/

namespace Uuid

/-- An identifier is not written as a text of another length. Neither of the fixed names has that
length. -/
theorem bytes_ne_of_length {s : String} (h : s.toList.length ≠ 36) (id : Uuid) :
    (ofText id.text).bytes ≠ (ofText s).bytes :=
  fun heq => h (OsPath.bytes_ofText_inj.mp heq ▸ id.length_text)

theorem names_text (id : Uuid) :
    WrittenPath.names (ofText id.text).bytes = [(ofText id.text).bytes] :=
  WrittenPath.names_of_notMem (OsPath.separator_notMem id.slash_not_mem_text)

/-- As a path, an identifier is one step down. It is neither empty nor a dot. -/
theorem moves_text (id : Uuid) : (ofText id.text).moves = [(ofText id.text).bytes] := by
  have hempty : (ofText id.text).bytes ≠ [] := id.bytes_ne_of_length (s := "") (by decide)
  have hdot : (ofText id.text).bytes ≠ [0x2e] := id.bytes_ne_of_length (s := ".") (by decide)
  unfold OsPath.moves WrittenPath.moves
  rw [names_text]
  refine List.filter_eq_self.mpr (List.forall_mem_singleton.mpr ?_)
  rw [Bool.and_eq_true, bne_iff_ne, Bool.not_eq_true', List.isEmpty_eq_false_iff]
  exact ⟨hempty, hdot⟩

theorem isAbsolute_text (id : Uuid) : (ofText id.text).isAbsolute = false :=
  WrittenPath.isAbsolute_of_notMem (OsPath.separator_notMem id.slash_not_mem_text)

end Uuid

namespace Project

/-- The names of a capture directory below its project. They are the same for every project. -/
def captureNames : List (List UInt8) := [(ofText "project-files").bytes, (ofText "captures").bytes]

/-- The directory of a project leads down from the root by its identifier. The root may be relative.
-/
theorem path_extends (root : OsPath) (id : Uuid) (name : String) :
    Extends root (new root id name).path [(ofText id.text).bytes] := by
  rw [← id.moves_text]
  refine extends_join id.isAbsolute_text ?_ (.inr ?_)
  · rw [id.moves_text]
    exact fun h => id.bytes_ne_of_length (s := "..") (by decide) (List.mem_singleton.mp h).symm
  · rw [id.names_text]
    exact fun h => id.bytes_ne_of_length (s := ".") (by decide) (Option.some.inj h)

/-- The capture directory of a project leads down from it by names of its own. It takes two steps
down. -/
theorem captureDir_extends (p : Project) : Extends p.path p.captureDir captureNames := by
  have hfiles : Extends p.path (p.path.join "project-files")
      (ofText "project-files").moves :=
    extends_join (by decide) (by decide) (.inr (by decide))
  have hcaptures : Extends (p.path.join "project-files") p.captureDir
      (ofText "captures").moves :=
    extends_join (by decide) (by decide) (.inr (by decide))
  exact hfiles.trans hcaptures

theorem captureDir_bytes_ne_nil (p : Project) : p.captureDir.bytes ≠ [] := by
  unfold captureDir OsPath.join
  exact WrittenPath.join_ne_nil (show (ofText "captures").bytes ≠ [] by decide)

/-- **A file of one project that another one has nothing to do with.** -/
structure KeptApart (project neighbour : Project) (file : String) : Prop where
  /-- The capture directory is the one in the project. -/
  directory : Extends project.path project.captureDir captureNames
  /-- The file is below it, by the names of its own. -/
  below : Extends project.captureDir (project.captureDir.join file) (ofText file).moves
  /-- So it lies in it. -/
  own : LiesIn project.captureDir (project.captureDir.join file)
  /-- It is the directory itself only if it has no name of its own, but at most dots. -/
  itself : (project.captureDir.join file).components = project.captureDir.components
    ↔ (ofText file).moves = []
  /-- It does not lie in the other project. -/
  outside : LiesOutside neighbour.path (project.captureDir.join file)
  /-- It is not the other project either. -/
  ne : project.captureDir.join file ≠ neighbour.path
  /-- Neither capture directory lies in the other one. -/
  parted : LiesOutside project.captureDir neighbour.captureDir
    ∧ LiesOutside neighbour.captureDir project.captureDir

/-- Names that follow different identifiers are not in one directory. Neither is the beginning of
the other, as they have one length. -/
theorem not_prefix_of_ne {id other : Uuid} (h : id ≠ other) (l m : List (List UInt8)) :
    ¬ (ofText id.text).bytes :: l <+: (ofText other.text).bytes :: m := by
  rw [List.cons_prefix_cons]
  exact fun hprefix => h (Uuid.text_inj.mp (OsPath.bytes_ofText_inj.mp hprefix.1))

/-- **The projects of a root are kept apart** by their identifiers. It is put together from the
lemmas on joined paths, with the two names as what differs. -/
theorem keptApart_of_ne (root : OsPath) {id other : Uuid} (hids : id ≠ other)
    (name name' : String) {file : String} (hrelative : (ofText file).isAbsolute = false)
    (hdown : WrittenPath.up ∉ (ofText file).moves) :
    KeptApart (new root id name) (new root other name') file := by
  have hproject := path_extends root id name
  have hneighbour := path_extends root other name'
  have hdirectory := captureDir_extends (new root id name)
  have hcaptures := hproject.trans hdirectory
  have hcaptures' := hneighbour.trans (captureDir_extends (new root other name'))
  have hbelow : Extends (new root id name).captureDir ((new root id name).captureDir.join file)
      (ofText file).moves :=
    extends_join hrelative hdown (.inl (captureDir_bytes_ne_nil _))
  have houtside := hneighbour.liesOutside (hcaptures.trans hbelow) (not_prefix_of_ne hids.symm _ _)
  exact {
    directory := hdirectory
    below := hbelow
    own := hbelow.liesIn
    itself := hbelow.components_eq_iff
    outside := houtside
    ne := houtside.ne
    parted :=
      ⟨hcaptures.liesOutside hcaptures' (not_prefix_of_ne hids _ _),
        hcaptures'.liesOutside hcaptures (not_prefix_of_ne hids.symm _ _)⟩ }

/-! ## Directories that are retold

The names that the control plane adds are texts and are shown as they are. Whether a path can be
told at all is decided by the root alone. -/

/-- **The capture directory is retold as the one of the same project** under the root as it is
retold. -/
theorem captureDir_retold (root : OsPath) (id : Uuid) (name : String) :
    (new root id name).captureDir.retold = (new root.retold id name).captureDir := by
  unfold captureDir new
  rw [OsPath.retold_join, OsPath.retold_join, OsPath.retold_join]

/-- A text names the capture directory exactly if one names the root. It follows by joining relative
texts, three times. -/
theorem captureDir_isText (root : OsPath) (id : Uuid) (name : String) :
    (new root id name).captureDir.IsText ↔ root.IsText := by
  unfold captureDir new
  rw [OsPath.isText_join (by decide), OsPath.isText_join (by decide),
    OsPath.isText_join id.isAbsolute_text]

end Project

/-! ## The path that is told

From the request that is sent to the path that is given back. Both come from one path; the request
has to show it as a text, and the caller is given it as it is. -/

namespace Node

variable {n m : Node} {stage : Stage} {log : List Exchange} {reports : List Json} {ending : Ending}

/-- **A single stage** was confirmed, and then it ended well with that one request, or it was not,
and then at most the request was sent. -/
theorem Staged.sent_single (h : Staged n [stage] log reports ending m) :
    (ending = some (.ok ()) ∧ sent log = [stage.request n]
        ∧ log.filterMap Exchange.confirmed? = [stage.request n])
      ∨ (ending ≠ some (.ok ()) ∧ (sent log = [] ∨ sent log = [stage.request n])
        ∧ log.filterMap Exchange.confirmed? = []) := by
  generalize hall : [stage] = all at h
  induction h with
  | finished => cases hall
  | found client _ ih => exact ih hall
  | missing | unfound =>
    exact .inr ⟨nofun, .inl rfl, rfl⟩
  | @confirmed n m _ _ log reports ending client report hrest _ =>
    cases hall
    cases hrest
    exact .inl ⟨rfl, rfl, rfl⟩
  | refused | unanswered =>
    cases hall
    exact .inr ⟨nofun, .inr rfl, rfl⟩

/-- The request that starts a capture into the file with a path: it holds how the path is shown.
Everything else in it depends on the node and the adapter. -/
def captureRequest (n : Node) (index : Nat) (path : OsPath) : Request :=
  .post (n.adapterPath index "start_capture")
    (some (.mkObj [("capture_file_path", .str path.lossy)]))

/-- **The path of a capture goes to the caller, and how it is shown to the engine.** -/
structure HandsOver (index : Nat) (file : String) (path : OsPath) (n : Node) : Prop where
  /-- The engine is told how the path is shown, in the one request there is. -/
  told : ∀ outside, let t := n.perform (.startCapture index file, outside)
    sent t.exchanges = [] ∨ sent t.exchanges = [n.captureRequest index path]
  /-- The caller is told the path, if the engine has confirmed that request and not else. -/
  given : ∀ outside outcome, let t := n.perform (.startCapture index file, outside)
    t.result = some (.ok outcome) ↔ outcome = .path path
      ∧ t.exchanges.filterMap Exchange.confirmed? = [n.captureRequest index path]
  /-- If the node is on its engine and has the adapter, it takes no more than an engine that
  answers. -/
  succeeds : n.status.isCreated = true → index < n.adapters → ∀ clients answers report,
    answers 0 = .ok report →
      (n.perform (.startCapture index file, served clients answers)).result
        = some (.ok (.path path))

/-- A capture is refused, or its request is all there is to it. It is refused for its status or for
its adapter. -/
theorem agenda_startCapture_cases (n : Node) (index : Nat) (file : String) :
    (∃ e, n.agenda (.startCapture index file) = .refuse e)
      ∨ n.agenda (.startCapture index file)
        = .single (.startCapture index (n.captureFile file)) (.path (n.captureFile file)) := by
  unfold agenda whenCreated whenAdapter
  dsimp only
  split
  · split
    · exact .inr rfl
    · exact .inl ⟨_, rfl⟩
  · exact .inl ⟨_, rfl⟩

/-- **A capture that was started**, or was not: it is refused, or its stage was carried out. In the
second case its result is the path, if it succeeded. -/
theorem startCapture_cases (n : Node) (index : Nat) (file : String) (outside : Outside) :
    let t := n.perform (.startCapture index file, outside)
    (∃ e, t = ⟨[], some (.error e), n⟩)
      ∨ ∃ reports ending,
        Staged n [.startCapture index (n.captureFile file)] t.exchanges reports ending t.after
          ∧ t.result = ending.map (Except.map fun _ => .path (n.captureFile file)) := by
  have hperformed := n.perform_performed (.startCapture index file, outside)
  obtain ⟨e, hagenda⟩ | hagenda := n.agenda_startCapture_cases index file
  · rw [hagenda] at hperformed
    exact .inl ⟨e, hperformed⟩
  · rw [hagenda] at hperformed
    exact .inr hperformed

/-- **Every node hands over the path of its file.** Nothing is assumed about its status, as a
refused capture sends nothing. -/
theorem handsOver_captureFile (n : Node) (index : Nat) (file : String) :
    HandsOver index file (n.captureFile file) n where
  told outside := by
    obtain ⟨e, ht⟩ | ⟨reports, ending, hstaged, -⟩ := n.startCapture_cases index file outside
    · rw [ht]
      exact .inl rfl
    · obtain ⟨-, hsent, -⟩ | ⟨-, hsent, -⟩ := hstaged.sent_single
      · exact .inr hsent
      · exact hsent
  given outside outcome := by
    intro t
    obtain ⟨e, ht⟩ | ⟨reports, ending, hstaged, hresult⟩ :=
      n.startCapture_cases index file outside
    · rw [show t = _ from ht]
      exact ⟨nofun, nofun⟩
    · obtain ⟨rfl, -, hconfirmed⟩ | ⟨hending, -, hconfirmed⟩ := hstaged.sent_single
      · rw [show t.result = _ from hresult]
        constructor
        · rintro ⟨⟩
          exact ⟨rfl, hconfirmed⟩
        · rintro ⟨rfl, -⟩
          rfl
      · constructor
        · intro hgiven
          refine absurd ?_ hending
          match ending, hresult.symm.trans hgiven with
          | some (.ok ()), _ => rfl
        · rintro ⟨-, hsome⟩
          cases hconfirmed.symm.trans hsome
  succeeds hcreated hindex clients answers report hanswer := by
    have hperformed := n.perform_performed (.startCapture index file, served clients answers)
    have hagenda : n.agenda (.startCapture index file)
        = .single (.startCapture index (n.captureFile file)) (.path (n.captureFile file)) :=
      (if_pos hcreated).trans (if_pos hindex)
    rw [hagenda] at hperformed
    obtain ⟨reports, ending, hstaged, hresult⟩ := hperformed
    have hreaches := hstaged.reaches (List.forall_mem_singleton.mpr nofun)
      (Process.transcript_answered _ _ n)
    obtain ⟨-, rfl⟩ | ⟨e, hlength, hrefused, -⟩ := hreaches.ending
    · exact hresult
    · rw [Nat.lt_one_iff.mp hlength, hanswer] at hrefused
      cases hrefused

/-- **Captures are kept apart, and told of as far as texts go.** All through the life of a node of a
project, the path that is given back for a capture is the one whose showing the engine was told. It
lies in the capture directory of the project and outside every other project of the root, and the
capture directories of two projects never lie in each other: however the root is written, and for
every file name that is relative and does not step up.

What the engine takes the showing for is the same file of the same project under the root as that is
retold. It is the path that was given back exactly if a text names the root. -/
theorem captures_kept_apart (root : OsPath) {id other : Uuid} (hids : id ≠ other)
    (name name' engine : String) (spec : NodeSpec) (turns : List Turn) (index : Nat)
    {file : String} (hrelative : (ofText file).isAbsolute = false)
    (hdown : WrittenPath.up ∉ (ofText file).components) :
    let project := Project.new root id name
    let neighbour := Project.new root other name'
    let path := project.captureDir.join file
    Always (HandsOver index file path) (draft id project.captureDir engine spec) turns
      ∧ project.KeptApart neighbour file
      ∧ path.retold = (Project.new root.retold id name).captureDir.join file
      ∧ (path.retold = path ↔ root.IsText) := by
  intro project neighbour path
  have hidentity : Always (fun m => m.identity = (draft id project.captureDir engine spec).identity)
      (draft id project.captureDir engine spec) turns :=
    always_of_keeps (fun m step hm => (m.agenda_arises step).keeps_identity hm) rfl turns
  refine ⟨hidentity.mono fun m hm => ?_, Project.keptApart_of_ne root hids name name' hrelative ?_,
    ?_, ?_⟩
  · obtain ⟨-, -, -, -, hdir⟩ := by simpa [identity] using hm
    have hfile : m.captureFile file = path := congrArg (OsPath.join · file) hdir
    exact hfile ▸ m.handsOver_captureFile index file
  · intro h
    refine hdown ?_
    show _ ∈ WrittenPath.components (ofText file).bytes
    rw [WrittenPath.components_eq]
    exact List.mem_append_right _ h
  · rw [← Project.captureDir_retold]
    exact OsPath.retold_join _ _
  · rw [← OsPath.isText_iff, ← Project.captureDir_isText root id name]
    exact OsPath.isText_join hrelative

/-- A root that steps up and ends with a separator, and a file name with a dot and a separator too
many. -/
theorem kept_apart_below_dots :
    let node : NodeSpec := { id := default, nodeType := .vpcs, name := "pc", adapters := 1 }
    let project := Project.new "../labs/" ⟨1, by decide⟩ "one"
    let neighbour := Project.new "../labs/" ⟨2, by decide⟩ "two"
    let file := "./day//first.pcap"
    let path := project.captureDir.join file
    (⟨1, by decide⟩ : Uuid) ≠ ⟨2, by decide⟩ ∧ (ofText file).isAbsolute = false
      ∧ WrittenPath.up ∉ (ofText file).components
      ∧ Always (HandsOver 0 file path) (draft project.id project.captureDir "engine" node)
          [(.create, obliging)]
      ∧ project.KeptApart neighbour file
      ∧ path.retold = path := by
  intro node project neighbour file path
  have hids : (⟨1, by decide⟩ : Uuid) ≠ ⟨2, by decide⟩ := by decide
  have hrelative : (ofText file).isAbsolute = false := by decide
  have hdown : WrittenPath.up ∉ (ofText file).components := by decide
  obtain ⟨htold, hapart, -, hretold⟩ := captures_kept_apart "../labs/" hids "one" "two" "engine"
    node [(.create, obliging)] 0 hrelative hdown
  exact ⟨hids, hrelative, hdown, htold, hapart, hretold.mpr ⟨_, rfl⟩⟩

/-- **A capture that is told of elsewhere.** The root is `/r` with a byte behind it that no text
has. The engine is told of a path in which that byte has become a replacement character, and the
caller is given the path with the byte. And under any root, the name `.` gives the capture directory
itself. -/
theorem capture_told_elsewhere :
    let node : NodeSpec := { id := default, nodeType := .vpcs, name := "pc", adapters := 1 }
    let project := Project.new ⟨[0x2f, 0x72, 0xff]⟩ ⟨1, by decide⟩ "one"
    let n := ((draft project.id project.captureDir "engine" node).perform (.create, obliging)).after
    let path := project.captureDir.join "test.pcap"
    let t := n.perform (.startCapture 0 "test.pcap", obliging)
    t.result = some (.ok (.path path)) ∧ sent t.exchanges = [n.captureRequest 0 path]
      ∧ n.captureRequest 0 path = .post (n.adapterPath 0 "start_capture") (some (.mkObj
          [("capture_file_path", .str ("/r\ufffd/00000000-0000-0000-0000-000000000001"
            ++ "/project-files/captures/test.pcap"))]))
      ∧ path.retold ≠ path
      ∧ (project.captureDir.join ".").components = project.captureDir.components := by
  intro node project n path t
  -- no text names the root, since its last byte is not retold as it is
  have hroot : ¬ (⟨[0x2f, 0x72, 0xff]⟩ : OsPath).IsText := by
    rw [OsPath.isText_iff]
    decide
  have hpath : ¬ path.IsText := by
    unfold path
    rwa [OsPath.isText_join (by decide), Project.captureDir_isText]
  exact ⟨rfl, rfl, rfl, mt OsPath.isText_iff.mpr hpath, by decide⟩

end Node

end Testbed
