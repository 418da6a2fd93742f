import Testbed.Cli.Program
import Testbed.Proofs.Config.Engines
import Testbed.Proofs.Config.Retry
import Testbed.Proofs.Controller.Settings

/-!
# How listing the engines ends

Listing the engines asks none of them, so the only thing that can go wrong is what the program finds
on its disk. It goes wrong at one of four points: a file cannot be understood, the configuration
says something impossible, the log filter cannot be cut into rules, or the engines do not fit
together in the registry. `ListingEnds` names the points with the codes, and `listing_ends` says
that the code of a run is that of the point it gets to.

The first two have a code of their own, 2, since without a configuration nothing can run. The last
one is a fault of the configuration, too: no engine is registered before, so an engine is refused
only if another section gives the same address (`first_settings`). But it is found out by the
registry, where it is a clash like any other, and keeps the code of a clash on its way out
(`shared_address_ends_with_one`).

The command is the simplest one, but its beginning is that of all commands: whatever keeps the
engines from being listed keeps the control plane from running and an engine from being asked. A
file that is passed over because it is not seen plays no part here, as it is no reason to end.
-/

namespace Testbed.Cli

open Controller (SharedAddress)

variable {env : Environment} {r : Request} {c : Config} {s : Settings} {e : ControlError}

/-- The settings that a request is carried out with. There are none if the configuration cannot be
read or something is wrong with it. -/
def Given (env : Environment) (r : Request) (s : Settings) : Prop :=
  ∃ c, load env r = .ok c ∧ deriveSettings env r c = .ok s

/-- **How listing the engines ends.** The points come in this order, and a run ends at the first
that it meets. So each of them says that those before it were passed: there are settings, or there
are settings and a filter. -/
inductive ListingEnds (env : Environment) (r : Request) : Nat → Prop
  /-- One of the files that the configuration is read from cannot be understood. -/
  | unreadable {e : ControlError} (h : env.disk.StopsWith (r.files env) e) : ListingEnds env r 2
  /-- Something is wrong with the configuration. -/
  | wrong {c : Config} {cause : Misconfigured} (hc : load env r = .ok c) (h : c.Wrong cause) :
      ListingEnds env r 2
  /-- A log filter is asked for that cannot be cut into its rules. -/
  | brokenOff {s : Settings} {fault : LogRule.Fault} (hs : Given env r s)
      (h : LogFilter.inForce env.logFilter s.logging = .error fault) : ListingEnds env r 101
  /-- Two engines have one address. -/
  | shared {s : Settings} {filter : LogFilter} (hs : Given env r s)
      (hfilter : LogFilter.inForce env.logFilter s.logging = .ok filter)
      (h : SharedAddress s.engines) : ListingEnds env r 1
  /-- The engines are listed. -/
  | listed {s : Settings} {filter : LogFilter} (hs : Given env r s)
      (hfilter : LogFilter.inForce env.logFilter s.logging = .ok filter)
      (h : ¬ SharedAddress s.engines) : ListingEnds env r 0

/-! ## Up to the settings

What can go wrong before there are settings, and that all of it ends with the code for a
configuration. Each fault is traced to the file or to the section that it is about. -/

theorem fromFiles_eq_error_iff {disk : Disk} {files : List String} :
    Config.fromFiles disk files = .error e ↔ disk.StopsWith files e :=
  Config.read_eq_error_iff

/-- A file that cannot be understood is a fault of the configuration, or of the system. It does not
matter which of the two. -/
theorem exitCode_of_stopsWith {disk : Disk} {files : List String} (h : disk.StopsWith files e) :
    e.exitCode = 2 := by
  obtain ⟨before, path, after, -, -, hfaulty⟩ := h
  cases hfaulty with
  | unreadable | notText | notToml => rfl

theorem load_of_stopsWith (h : env.disk.StopsWith (r.files env) e) :
    ∃ f, load env r = .error f ∧ f.cause = e := by
  unfold load
  rw [fromFiles_eq_error_iff.mpr h]
  exact ⟨_, rfl, rfl⟩

theorem stopsWith_of_load {f : Failure} (h : load env r = .error f) :
    env.disk.StopsWith (r.files env) f.cause := by
  unfold load at h
  cases hfiles : Config.fromFiles env.disk (r.files env) with
  | ok c =>
    rw [hfiles] at h
    cases h
  | error e =>
    rw [hfiles] at h
    cases h
    exact fromFiles_eq_error_iff.mp hfiles

/-- Settings are derived, or something is wrong. In the second case the engines differ in their
identifiers, as their sections differ in their names. -/
theorem deriveSettings_cases (env : Environment) (r : Request) (c : Config) :
    (∃ f cause, deriveSettings env r c = .error f ∧ f.cause = .config cause ∧ c.Wrong cause)
      ∨ ∃ s, deriveSettings env r c = .ok s ∧ (s.engines.map (·.id)).Nodup
        ∧ ∀ cause, ¬ c.Wrong cause := by
  unfold deriveSettings
  cases hs : c.settings (Config.defaultProjects env.home) with
  | error e =>
    obtain ⟨cause, rfl, hwrong⟩ := Config.wrong_of_settings hs
    exact .inl ⟨_, cause, rfl, rfl, hwrong⟩
  | ok s =>
    refine .inr ⟨_, rfl, ?_, Config.not_wrong_of_settings_eq_ok hs⟩
    exact (Config.ids_of_settings hs).symm ▸ c.nodup_engineIds

theorem Given.nodup_ids (h : Given env r s) : (s.engines.map (·.id)).Nodup := by
  obtain ⟨c, -, hs⟩ := h
  obtain ⟨f, cause, herror, -⟩ | ⟨s', hs', hids, -⟩ := deriveSettings_cases env r c
  · cases herror.symm.trans hs
  · cases hs'.symm.trans hs
    exact hids

/-! ## The start

From here on there are settings, and the start of the program is told as what the report on their
engines leads to. -/

theorem start_of_load {f : Failure} (h : load env r = .error f) :
    start env r = .error (failed f none "" []) := by
  unfold start
  rw [h]
  rfl

theorem start_of_deriveSettings {f : Failure} (hc : load env r = .ok c)
    (h : deriveSettings env r c = .error f) : start env r = .error (failed f none "" []) := by
  unfold start
  rw [hc]
  show ((deriveSettings env r c >>= fun s => pure (c, s)).mapError _ >>= _) = _
  rw [h]
  rfl

/-- What comes of the report on the engines, with a log. It is the end of `start`, with everything
before it as arguments. -/
def concluded (c : Config) (s : Settings) (report : Controller.SettingsReport)
    (controller : Controller) (log : Option Log × String) : Except Ending Started :=
  let events := startEvents c ++ report.engines.flatMap engineEvents
  match report.result with
  | .error e => .error (failed ⟨none, e⟩ log.1 log.2 events)
  | .ok () =>
    .ok {
      config := c
      settings := s
      controller
      log := log.1
      complaint := log.2
      events := events ++ [readyEvent s] }

/-- **With settings, the log is opened and the engines are registered.** What can still go wrong
after that is the log, which is opened before the report is looked at. -/
theorem start_of_settings (hc : load env r = .ok c) (hs : deriveSettings env r c = .ok s)
    {report : Controller.SettingsReport} {controller : Controller}
    (hreport : (Controller.applySettings s).Settles (Controller.initial s) report controller) :
    start env r = openLog env s.logging >>= concluded c s report controller := by
  have hcomplete : (Controller.applySettings s).complete Watch.silence (Controller.initial s) ()
      = (some report, controller, ()) := by
    rw [Process.complete_eq_transcript, hreport.transcript]
  unfold start
  rw [hc]
  show ((deriveSettings env r c >>= fun s => pure (c, s)).mapError _ >>= _) = _
  rw [hs]
  show (openLog env s.logging >>= _) = _
  refine congrArg (openLog env s.logging >>= ·) (funext fun log => ?_)
  let done := (Controller.applySettings s).complete Watch.silence (Controller.initial s) ()
  show concluded c s (done.1.getD {}) done.2.1 log = _
  rw [show done = _ from hcomplete]
  rfl

/-- A filter in force is enough of a log, since one that cannot be opened is done without. The
complaint goes to the user and not into the code. -/
theorem exists_openLog {logging : LogSettings} {filter : LogFilter}
    (h : LogFilter.inForce env.logFilter logging = .ok filter) :
    ∃ log, openLog env logging = .ok log := by
  unfold openLog
  rw [h]
  dsimp only
  split
  · exact ⟨_, rfl⟩
  · exact ⟨_, rfl⟩

/-! ## The codes

The points at which a run can end, each with its code, and that every run gets to exactly one of
them. -/

variable {answer : Call → Answer} {args : List String}

/-- A run of a request that does not get to its command ends as its start does. The command is not
looked at. -/
theorem run_of_start_error (hread : read args = .request r) {ending : Ending}
    (h : start env r = .error ending) : run env answer args = ending := by
  unfold run
  rw [hread]
  simp only [h]

theorem code_of_list (hread : read args = .request r) (hlist : r.command = .list)
    {started : Started} (h : start env r = .ok started) : (run env answer args).code = 0 := by
  unfold run
  rw [hread]
  simp only [h]
  rw [hlist]
  rfl

/-- With settings and a filter, the engines decide. Two of them with one address are the only thing
that can go wrong with engines that differ in their identifiers. -/
theorem code_of_given (hread : read args = .request r) (hlist : r.command = .list)
    (hs : Given env r s) {filter : LogFilter}
    (hfilter : LogFilter.inForce env.logFilter s.logging = .ok filter) :
    (SharedAddress s.engines → (run env answer args).code = 1)
      ∧ (¬ SharedAddress s.engines → (run env answer args).code = 0) := by
  obtain ⟨report, controller, hreport, hok, herror⟩ :=
    Controller.first_settings s hs.nodup_ids
  obtain ⟨c, hc, hs⟩ := hs
  obtain ⟨log, hlog⟩ := exists_openLog hfilter
  have hstart : start env r = concluded c s report controller log := by
    rw [start_of_settings hc hs hreport, hlog]
    rfl
  unfold concluded at hstart
  cases hresult : report.result with
  | error e =>
    obtain ⟨owner, record, -, rfl⟩ := herror e hresult
    rw [hresult] at hstart hok
    have hcode : (run env answer args).code = 1 := by
      rw [run_of_start_error hread hstart]
      rfl
    exact ⟨fun _ => hcode, fun hshared => nomatch hok.mpr hshared⟩
  | ok =>
    rw [hresult] at hstart hok
    exact ⟨fun hshared => absurd hshared (hok.mp rfl), fun _ => code_of_list hread hlist hstart⟩

/-- Every point has its code. Each case follows the start up to its point. -/
theorem ListingEnds.code_eq (hread : read args = .request r) (hlist : r.command = .list)
    {code : Nat} (h : ListingEnds env r code) : (run env answer args).code = code := by
  cases h with
  | unreadable h =>
    obtain ⟨f, hload, rfl⟩ := load_of_stopsWith h
    rw [run_of_start_error hread (start_of_load hload)]
    exact exitCode_of_stopsWith h
  | wrong hc h =>
    obtain ⟨f, cause, hderive, hcause, -⟩ | ⟨s, -, -, hsound⟩ := deriveSettings_cases env r _
    · rw [run_of_start_error hread (start_of_deriveSettings hc hderive)]
      show f.cause.exitCode = 2
      rw [hcause]
      rfl
    · exact absurd h (hsound _)
  | @brokenOff s fault hs h =>
    obtain ⟨report, controller, hreport, -⟩ := Controller.first_settings s hs.nodup_ids
    obtain ⟨c, hc, hs⟩ := hs
    have hstart : start env r = .error Cli.brokenOff := by
      rw [start_of_settings hc hs hreport]
      unfold openLog
      rw [h]
      rfl
    rw [run_of_start_error hread hstart]
    rfl
  | shared hs hfilter h => exact (code_of_given hread hlist hs hfilter).1 h
  | listed hs hfilter h => exact (code_of_given hread hlist hs hfilter).2 h

/-- A run gets to one of the points. They are taken in the order in which a run comes to them. -/
theorem exists_listingEnds (env : Environment) (r : Request) : ∃ code, ListingEnds env r code := by
  cases hload : load env r with
  | error f => exact ⟨2, .unreadable (stopsWith_of_load hload)⟩
  | ok c =>
    obtain ⟨f, cause, -, -, hwrong⟩ | ⟨s, hs, -, -⟩ := deriveSettings_cases env r c
    · exact ⟨2, .wrong hload hwrong⟩
    · have hgiven : Given env r s := ⟨c, hload, hs⟩
      cases hfilter : LogFilter.inForce env.logFilter s.logging with
      | error fault => exact ⟨101, .brokenOff hgiven hfilter⟩
      | ok filter =>
        by_cases hshared : SharedAddress s.engines
        · exact ⟨1, .shared hgiven hfilter hshared⟩
        · exact ⟨0, .listed hgiven hfilter hshared⟩

/-- **The code of a run that lists the engines** is that of the point it gets to: 2 exactly if a
file cannot be understood or something is wrong with the configuration, and 1 exactly if two engines
of a configuration that nothing else is wrong with have one address. No answer of an engine occurs
in it, as none is asked. Both directions are proved at once: the cases exclude each other and leave
nothing out, so it is enough to give the code in each of them. -/
theorem listing_ends (env : Environment) (answer : Call → Answer) {args : List String} {r : Request}
    (hread : read args = .request r) (hlist : r.command = .list) (code : Nat) :
    (run env answer args).code = code ↔ ListingEnds env r code := by
  constructor
  · rintro rfl
    obtain ⟨code, h⟩ := exists_listingEnds env r
    exact (h.code_eq hread hlist).symm ▸ h
  · exact fun h => h.code_eq hread hlist

/-- A disk with one configuration file. Nothing else is on it. -/
def diskWith (text : String) : Disk := fun path =>
  if path = "lattice.toml" then some (.file (Text.Utf8.encode text) 0) else none

/-- The surroundings of a program that finds this disk. No configuration is looked for elsewhere. -/
def surroundedBy (disk : Disk) : Environment where
  disk
  home := "/home/lab"

/-- A port that is out of range. The run ends before an engine is registered. -/
theorem listing_ends_with_two :
    let env := surroundedBy (diskWith "[compute.a]
host = 'h'
port = 65536
")
    let r : Request := { config := some "lattice.toml", command := .list }
    read ["computes", "-c", "lattice.toml"] = .request r ∧ r.command = .list
      ∧ (run env Call.unanswered ["computes", "-c", "lattice.toml"]).code = 2
      ∧ ListingEnds env r 2 := by
  intro env r
  have hread : read ["computes", "-c", "lattice.toml"] = .request r := by decide
  have hcode : (run env Call.unanswered ["computes", "-c", "lattice.toml"]).code = 2 := by
    decide +kernel
  exact ⟨hread, rfl, hcode, (listing_ends env Call.unanswered hread rfl 2).mp hcode⟩

/-- **Two sections with one address** end the run with the code of a clash, although the fault is
one of the configuration. Two sections without a port have the usual one, so it is enough that they
name one host. -/
theorem shared_address_ends_with_one :
    let env := surroundedBy (diskWith "[compute.a]
host = 'h'
[compute.b]
host = 'h'
")
    let r : Request := { config := some "lattice.toml", command := .list }
    let ending := run env Call.unanswered ["computes", "-c", "lattice.toml"]
    read ["computes", "-c", "lattice.toml"] = .request r ∧ r.command = .list ∧ ending.code = 1
      ∧ ending.output = ""
      ∧ ending.complaint = "Error: Conflict: Compute a is already registered at http://h:3080
" := by
  intro env r ending
  exact ⟨by decide, rfl, by decide +kernel, by decide +kernel, by decide +kernel⟩

end Testbed.Cli
