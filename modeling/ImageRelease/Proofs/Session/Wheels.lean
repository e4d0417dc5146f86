import ImageRelease.Proofs.CodePoints
import ImageRelease.Proofs.Entries
import ImageRelease.Proofs.Files
import ImageRelease.Proofs.Session.Commands

/-!
The report of a build of wheels.

The directory of wheels is listed before and after the tool runs, and what is reported is what the
second listing has over the first. `build_report` says of the report what the directory held then
and holds now: each new wheel is in it once, in the order of the names, with what its file holds;
where the report cannot be made in full there is none. A path that is too long cannot be looked up,
and that may be the path of a wheel alone.
-/

namespace ImageRelease

open Session Act

namespace WheelBuilder

/-! ### Listing and inspecting -/

section

variable (w : WheelBuilder)

/-- The names of the wheels in the directory of wheels. -/
def wheelNames (files : FileTree) : List String :=
  (files.namesIn w.dist).filter isWheelName

lemma run_wheelsIn {s : Session} (short : s.files.isLong w.dist = false) :
    (wheelsIn w.dist).run s = (.ok (w.wheelNames s.files), s) := by
  unfold wheelsIn
  rw [run_bind_of_ok (run_state s)]
  simp [FileTree.list?, short, wheelNames]

lemma run_wheelsIn_of_long {s : Session} (long : s.files.isLong w.dist = true) :
    (wheelsIn w.dist).run s = (.error (.longName w.dist.text), s) := by
  unfold wheelsIn
  rw [run_bind_of_ok (run_state s)]
  simp [FileTree.list?, long]

/-- A directory that cannot be looked up ends the build before it starts. -/
lemma build_of_long {s : Session} (long : s.files.isLong w.dist = true) :
    w.build.run s = (.error (.longName w.dist.text), s) := by
  rw [build, run_bind_of_ok (run_state s), run_bind_of_error (w.run_wheelsIn_of_long long)]

end

/-- A record tells what the file of its name holds. -/
def Tells (files : FileTree) (dist : Path) (a : Artifact) : Prop :=
  ∃ bytes, files.file? (dist.join a.fileName) = some bytes ∧ a.size = bytes.length ∧
    a.digest = Digest.sha256 bytes

variable {s : Session} {name : String} (dist : Path)

lemma run_inspect (h : s.files.isFile (dist.join name) = true) :
    ∃ a t, (inspect dist name).run s = (.ok a, t) ∧ t.files = s.files ∧ a.fileName = name ∧
      Tells s.files dist a := by
  obtain ⟨bytes, read⟩ := FileTree.isFile_iff.mp h
  unfold inspect
  rw [run_bind_of_ok (run_state s)]
  simp only [read]
  exact ⟨⟨name, bytes.length, Digest.sha256 bytes⟩, _, rfl, rfl, rfl, bytes,
    FileTree.file?_of_read? read, rfl, rfl⟩

lemma run_inspect_of_other (h : s.files.isFile (dist.join name) = false) :
    ∃ e, (inspect dist name).run s = (.error e, s) := by
  unfold inspect
  rw [run_bind_of_ok (run_state s)]
  split
  · exact ⟨_, rfl⟩
  · exact ⟨_, rfl⟩
  · case h_3 bytes read =>
    rw [FileTree.isFile_iff.mpr ⟨bytes, read⟩] at h
    cases h

lemma inspectEach_of_files {names : List String}
    (h : ∀ name ∈ names, s.files.isFile (dist.join name) = true) :
    ∃ report t, (inspectEach dist names).run s = (.ok report, t) ∧ t.files = s.files ∧
      report.map (·.fileName) = names ∧ ∀ a ∈ report, Tells s.files dist a := by
  induction names generalizing s with
  | nil => exact ⟨[], s, rfl, rfl, rfl, nofun⟩
  | cons name rest ih =>
    obtain ⟨first, others⟩ := List.forall_mem_cons.mp h
    obtain ⟨a, t, inspected, same, named, tells⟩ := run_inspect dist first
    rw [← same] at others
    obtain ⟨report, u, more, unchanged, names, all⟩ := ih others
    rw [same] at unchanged all
    refine ⟨a :: report, u, ?_, unchanged, ?_, List.forall_mem_cons.mpr ⟨tells, all⟩⟩
    · unfold inspectEach
      rw [run_bind_of_ok inspected, run_bind_of_ok more]
      rfl
    · rw [List.map_cons, named, names]

lemma inspectEach_of_other {names : List String} (hn : name ∈ names)
    (h : s.files.isFile (dist.join name) = false) :
    ∃ e t, (inspectEach dist names).run s = (.error e, t) := by
  induction names generalizing s with
  | nil => cases hn
  | cons first rest ih =>
    unfold inspectEach
    cases file : s.files.isFile (dist.join first) with
    | false =>
      obtain ⟨e, inspected⟩ := run_inspect_of_other dist file
      exact ⟨e, s, run_bind_of_error inspected⟩
    | true =>
      obtain ⟨a, t, inspected, same, -⟩ := run_inspect dist file
      have later : name ∈ rest := (List.mem_cons.mp hn).resolve_left fun hf => by
        rw [hf, file] at h
        cases h
      obtain ⟨e, u, failed⟩ := ih later (same ▸ h)
      refine ⟨e, u, ?_⟩
      rw [run_bind_of_ok inspected, run_bind_of_error failed]

/-! ### The tool -/

variable (w : WheelBuilder)

/-- The tool that builds wheels, as an external step. -/
def tool : Act Session Unit :=
  timed "Build wheel" do
    let _ ← w.runner.run w.command (some w.directory.text)

lemma run_build (s : Session) : w.build.run s =
    (wheelsIn w.dist >>= fun before => w.tool >>= fun _ =>
      if w.runner.dryRun then pure []
      else wheelsIn w.dist >>= fun after =>
        inspectEach w.dist (newWheels before after s.files.places)).run s := rfl

/-- The tool changes files as the session has it, whether it succeeds or fails. -/
lemma run_tool (real : w.runner.dryRun = false) (s : Session) :
    ∃ outcome t, w.tool.run s = (outcome, t) ∧ t.files = s.proceed.files ∧
      outcome.isOk = decide s.nextOutcome.ending.Succeeded := by
  obtain ⟨level, text, hr⟩ := run_timed "Build wheel"
    (do let _ ← w.runner.run w.command (some w.directory.text)) s
  have ne : w.command ≠ [] := List.cons_ne_nil _ _
  rw [run_bind_pure, Runner.run_started real ne] at hr
  refine ⟨_, _, hr, rfl, ?_⟩
  have same {outcome : Except Failure Completed} :
      (outcome.map fun _ => ()).isOk = outcome.isOk := by
    cases outcome <;> rfl
  rw [same, w.runner.conclusion_isOk]
  rfl

lemma run_tool_of_succeeded (real : w.runner.dryRun = false)
    (succeeded : s.nextOutcome.ending.Succeeded) :
    ∃ t, w.tool.run s = (.ok (), t) ∧ t.files = s.proceed.files := by
  obtain ⟨outcome, t, ran, files, ok⟩ := w.run_tool real s
  rw [decide_eq_true succeeded] at ok
  cases outcome with
  | error e => cases ok
  | ok u => exact ⟨t, ran, files⟩

lemma run_tool_rehearsed (dry : w.runner.dryRun = true) (s : Session) (files : FileTree) :
    w.tool.run { s with files } = (.ok (), { (w.tool.run s).2 with files }) := by
  obtain ⟨⟨dryRun, timeout⟩, directory, interpreter⟩ := w
  cases dry
  rfl

/-! ### What is new -/

/-- A wheel that the directory of wheels holds now and did not hold before. -/
structure IsNew (before after : FileTree) (name : String) : Prop where
  wheel : ".whl".toList <:+ name.toList
  now : after.Holds w.dist name
  earlier : ¬before.Holds w.dist name

/-- A report of what is new: one record for each new wheel and no other, in the order of the code
points of the names, and each tells what its file holds. -/
structure IsReport (before after : FileTree) (report : List Artifact) : Prop where
  ordered : (report.map (·.fileName)).Pairwise fun a b =>
    Text.codes a before.places < Text.codes b before.places
  complete : ∀ name, name ∈ report.map (·.fileName) ↔ w.IsNew before after name
  tells : ∀ a ∈ report, Tells after w.dist a

/-- What a report takes: the tool succeeds, the directory of wheels can be looked up before it runs
and after, and what is new in it are files. -/
structure Reportable (s : Session) : Prop where
  before : s.files.isLong w.dist = false
  tool : s.nextOutcome.ending.Succeeded
  after : s.proceed.files.isLong w.dist = false
  files : ∀ name, w.IsNew s.files s.proceed.files name →
    s.proceed.files.isFile (w.dist.join name) = true

variable {before after : FileTree}

lemma mem_wheelNames {files : FileTree} :
    name ∈ w.wheelNames files ↔ ".whl".toList <:+ name.toList ∧ files.Holds w.dist name := by
  rw [wheelNames, List.mem_filter, FileTree.mem_namesIn, isWheelName, List.isSuffixOf_iff_suffix,
    and_comm]

lemma mem_newWheels (places : Text.Surrogate.Places) :
    name ∈ newWheels (w.wheelNames before) (w.wheelNames after) places ↔
      w.IsNew before after name := by
  rw [newWheels, List.mem_mergeSort, List.mem_filter, Bool.not_eq_true', ← Bool.not_eq_true,
    List.contains_iff_mem, mem_wheelNames, mem_wheelNames]
  constructor
  · rintro ⟨⟨wheel, now⟩, earlier⟩
    exact ⟨wheel, now, fun held => earlier ⟨wheel, held⟩⟩
  · rintro ⟨wheel, now, earlier⟩
    exact ⟨⟨wheel, now⟩, fun held => earlier held.2⟩

lemma newWheels_ordered (distinct : after.Distinct) (places : Text.Surrogate.Places) :
    (newWheels (w.wheelNames before) (w.wheelNames after) places).Pairwise
      fun a b => Text.codes a places < Text.codes b places := by
  have once : (((w.wheelNames after).filter fun n =>
      !(w.wheelNames before).contains n).map id).Nodup := by
    rw [List.map_id]
    exact ((distinct.namesIn w.dist).filter _).filter _
  exact Text.pairwise_lt_mergeSort once

/-! ### The report -/

variable {w}

lemma build_of_tool (real : w.runner.dryRun = false) (short : s.files.isLong w.dist = false)
    {t : Session} (ran : w.tool.run s = (.ok (), t)) (short' : t.files.isLong w.dist = false) :
    w.build.run s = (inspectEach w.dist
      (newWheels (w.wheelNames s.files) (w.wheelNames t.files) s.files.places)).run t := by
  rw [run_build, run_bind_of_ok (w.run_wheelsIn short), run_bind_of_ok ran, real,
    if_neg Bool.false_ne_true, run_bind_of_ok (w.run_wheelsIn short')]

lemma Reportable.report (real : w.runner.dryRun = false) (h : w.Reportable s)
    (distinct : s.files.Distinct) : ∃ report t, w.build.run s = (.ok report, t) ∧
      t.files = s.proceed.files ∧ w.IsReport s.files s.proceed.files report := by
  obtain ⟨t, ran, files⟩ := w.run_tool_of_succeeded real h.tool
  have new : ∀ name ∈ newWheels (w.wheelNames s.files) (w.wheelNames t.files) s.files.places,
      t.files.isFile (w.dist.join name) = true := by
    rw [files]
    exact fun name hn => h.files name ((w.mem_newWheels _).mp hn)
  obtain ⟨report, u, inspected, same, names, tells⟩ := inspectEach_of_files w.dist new
  rw [← build_of_tool real h.before ran (files ▸ h.after)] at inspected
  refine ⟨report, u, inspected, same.trans files, ?_, fun name => ?_, files ▸ tells⟩
  · rw [names, files]
    exact w.newWheels_ordered (distinct.apply _) _
  · rw [names, files]
    exact w.mem_newWheels _

lemma error_of_not_reportable (real : w.runner.dryRun = false) (h : ¬w.Reportable s) :
    ∃ e t, w.build.run s = (.error e, t) := by
  cases short : s.files.isLong w.dist with
  | true => exact ⟨_, s, w.build_of_long short⟩
  | false =>
    obtain ⟨outcome, t, ran, files, ok⟩ := w.run_tool real s
    cases outcome with
    | error e =>
      refine ⟨e, t, ?_⟩
      rw [run_build, run_bind_of_ok (w.run_wheelsIn short), run_bind_of_error ran]
    | ok u =>
      have tool := of_decide_eq_true ok.symm
      cases short' : t.files.isLong w.dist with
      | true =>
        refine ⟨.longName w.dist.text, t, ?_⟩
        rw [run_build, run_bind_of_ok (w.run_wheelsIn short), run_bind_of_ok ran, real,
          if_neg Bool.false_ne_true, run_bind_of_error (w.run_wheelsIn_of_long short')]
      | false =>
        -- all else is as it should be, so one of the new wheels is no file
        have other : ∃ name, w.IsNew s.files s.proceed.files name ∧
            s.proceed.files.isFile (w.dist.join name) = false := by
          by_contra none
          refine h ⟨short, tool, files ▸ short', fun name new => ?_⟩
          exact Bool.of_not_eq_false fun other => none ⟨name, new, other⟩
        obtain ⟨name, new, other⟩ := other
        rw [← files] at new other
        rw [build_of_tool real short ran short']
        exact inspectEach_of_other w.dist ((w.mem_newWheels _).mpr new) other

variable (w)

/-- **The report of a build**: where nothing is in its way, it tells each wheel that is new in the
directory of wheels, and nothing else, and otherwise there is no report. A dry run reports nothing,
and the files make no difference to it where the directory can be looked up. -/
theorem build_report (s : Session) (distinct : s.files.Distinct) :
    (w.runner.dryRun = false →
      (w.Reportable s → ∃ report t, w.build.run s = (.ok report, t) ∧
        t.files = s.proceed.files ∧ w.IsReport s.files s.proceed.files report) ∧
      (¬w.Reportable s → ∃ e t, w.build.run s = (.error e, t))) ∧
    (w.runner.dryRun = true → ∃ t : Session, ∀ files, files.isLong w.dist = false →
      w.build.run { s with files } = (.ok [], { t with files })) := by
  refine ⟨fun real => ⟨fun h => h.report real distinct, error_of_not_reportable real⟩,
    fun dry => ⟨(w.tool.run s).2, fun files short => ?_⟩⟩
  have listed := w.run_wheelsIn (s := { s with files }) short
  rw [run_build, run_bind_of_ok listed, run_bind_of_ok (w.run_tool_rehearsed dry s files), dry]
  rfl

/-- A directory with wheels in it, and a tool that adds two to them, writes one of them anew,
removes another, and puts one further down. -/
def packing : Session where
  identifier := ""
  files.entries := [(["pkg"], .directory), (["pkg", "dist"], .directory),
    (["pkg", "dist", "old.whl"], .file [1]), (["pkg", "dist", "gone.whl"], .file [2])]
  script := [{ changes := [("pkg/dist/b.whl", .write [80, 75]), ("pkg/dist/.whl", .write []),
    ("pkg/dist/old.whl", .write [3]), ("pkg/dist/gone.whl", .remove),
    ("pkg/dist/n/x.whl", .write [4]), ("pkg/dist/b.whl.txt", .write [5])] }]

def packer : WheelBuilder :=
  ⟨{}, .parse "pkg", "python3"⟩

/-- The two that are new are reported. -/
theorem build_report_packing :
    packing.files.Distinct ∧ packer.Reportable packing ∧
      ∃ report t, packer.build.run packing = (.ok report, t) ∧
        t.files = packing.proceed.files ∧
        packer.IsReport packing.files packing.proceed.files report := by
  have distinct : packing.files.Distinct := by decide +kernel
  have reportable : packer.Reportable packing := by
    have added : ((packer.wheelNames packing.proceed.files).filter fun n =>
        !(packer.wheelNames packing.files).contains n) = ["b.whl", ".whl"] := by decide +kernel
    refine ⟨by decide +kernel, rfl, by decide +kernel, fun name new => ?_⟩
    rw [← mem_newWheels _ .usual, newWheels, List.mem_mergeSort, added] at new
    revert name
    decide +kernel
  exact ⟨distinct, reportable, ((build_report packer packing distinct).1 rfl).1 reportable⟩

end WheelBuilder

/-! ### Wheels out of reach -/

/-- Names that lead into a directory and out of it again, so many times, and then on. -/
def Path.around : Nat → List String → List String
  | 0, rest => rest
  | n + 1, rest => "x" :: ".." :: around n rest

namespace Path

lemma around_append (n : Nat) (names rest : List String) :
    around n names ++ rest = around n (names ++ rest) := by
  induction n with
  | zero => rfl
  | succ n ih => exact congrArg ("x" :: ".." :: ·) ih

lemma around_ne_nil (n : Nat) {rest : List String} (some : rest ≠ []) : around n rest ≠ [] := by
  cases n with
  | zero => exact some
  | succ n => exact List.cons_ne_nil _ _

lemma systemSize_around (places : Text.Surrogate.Places) (n : Nat) {rest : List String}
    (some : rest ≠ []) : Text.systemSize (Text.joined "/" (around n rest)) places =
      5 * n + Text.systemSize (Text.joined "/" rest) places := by
  induction n with
  | zero => exact (Nat.zero_add _).symm
  | succ n ih =>
    obtain ⟨name, more, next⟩ := List.exists_cons_of_ne_nil (around_ne_nil n some)
    have parts : Text.joined "/" (around (n + 1) rest) =
        "x" ++ "/" ++ (".." ++ "/" ++ Text.joined "/" (around n rest)) := by
      rw [around, next]
      rfl
    rw [parts]
    simp only [Text.systemSize_append, ih]
    have sizes : Text.systemSize "x" places = 1 ∧ Text.systemSize "/" places = 1 ∧
        Text.systemSize ".." places = 2 := by
      refine ⟨?_, ?_, ?_⟩ <;> rw [Text.systemSize_of_common (by decide)] <;> rfl
    omega

end Path

namespace FileTree

variable {t : FileTree} (inner : t.at? ["x"] = some .directory)

include inner

lemma turn : t.leadsOn (.inside []) = true ∧ t.leadsOn (.inside ["x"]) = true ∧
    next? "x" (.inside []) = some (.inside ["x"]) ∧
    next? ".." (.inside ["x"]) = some (.inside []) :=
  ⟨rfl, by simp [leadsOn, inner], rfl, rfl⟩

lemma walk?_around (n : Nat) (rest : List String) :
    t.walk? (.inside []) (Path.around n rest) = t.walk? (.inside []) rest := by
  induction n with
  | zero => rfl
  | succ n ih =>
    obtain ⟨here, there, into, out⟩ := turn inner
    simp only [Path.around, walk?, here, into, Option.bind_some, there, out, ih, if_true]

lemma meetsLongName_around (n : Nat) (rest : List String) :
    t.meetsLongName (.inside []) (Path.around n rest) = t.meetsLongName (.inside []) rest := by
  induction n with
  | zero => rfl
  | succ n ih =>
    obtain ⟨here, there, into, out⟩ := turn inner
    have sizes : ¬nameLimit < Text.systemSize "x" t.places ∧
        ¬nameLimit < Text.systemSize ".." t.places := by
      constructor <;> rw [Text.systemSize_of_common (by decide)] <;> decide
    simp only [Path.around, meetsLongName, here, into, there, out, ih, sizes]
    simp

omit inner in
lemma all_around {f : String → Bool} (x : f "x" = true) (up : f ".." = true) (n : Nat)
    (rest : List String) : (Path.around n rest).all f = rest.all f := by
  induction n with
  | zero => rfl
  | succ n ih => simp [Path.around, x, up, ih]

/-- What there is on such a path is what there is on the path without the turns. -/
lemma place?_around (n : Nat) (rest : List String) :
    t.place? ⟨.here, Path.around n rest⟩ = t.place? ⟨.here, rest⟩ :=
  walk?_around inner n rest

lemma namesIn_around (n : Nat) (rest : List String) :
    t.namesIn ⟨.here, Path.around n rest⟩ = t.namesIn ⟨.here, rest⟩ := by
  unfold namesIn isDirectory entry?
  rw [place?_around inner]

lemma file?_around (n : Nat) (rest : List String) :
    t.file? ⟨.here, Path.around n rest⟩ = t.file? ⟨.here, rest⟩ := by
  unfold file? entry?
  rw [place?_around inner]

lemma isLong_around (n : Nat) {rest : List String} (some : rest ≠ [])
    (given : rest.all (Text.isForSystem · t.places) = true)
    (short : t.meetsLongName (.inside []) rest = false) :
    t.isLong ⟨.here, Path.around n rest⟩ =
      decide (4095 < 5 * n + Text.systemSize (Text.joined "/" rest) t.places) := by
  have text : (⟨.here, Path.around n rest⟩ : Path).text = Text.joined "/" (Path.around n rest) :=
    if_neg (Path.around_ne_nil n some)
  have turns : (Path.around n rest).all (Text.isForSystem · t.places) = true := by
    rw [all_around (Text.isForSystem_of_common (by decide) (by decide))
      (Text.isForSystem_of_common (by decide) (by decide)), given]
  rw [isLong, turns, text, Path.systemSize_around t.places n some, if_pos rfl,
    meetsLongName_around inner, short, pathLimit]
  simp

end FileTree

namespace WheelBuilder

/-- A builder that goes to its directory in a roundabout way. -/
def roundabout (dryRun : Bool) (turns : Nat) : WheelBuilder :=
  ⟨{ dryRun }, ⟨.here, Path.around turns []⟩, "python3"⟩

/-- A directory without wheels, and a tool that adds one. -/
def adding : Session where
  identifier := ""
  files.entries := [(["x"], .directory), (["dist"], .directory)]
  script := [{ changes := [("dist/a.whl", .write [80, 75])] }]

lemma dist_roundabout (dryRun : Bool) (turns : Nat) :
    (roundabout dryRun turns).dist = ⟨.here, Path.around turns ["dist"]⟩ := by
  have anchor : (Path.parse "dist").anchor = .here := by decide +kernel
  have names : (Path.parse "dist").names = ["dist"] := by decide +kernel
  rw [dist, Path.join_eq_of_here anchor, names]
  exact congrArg (Path.mk .here) (Path.around_append _ _ _)

lemma join_around (turns : Nat) :
    (⟨.here, Path.around turns ["dist"]⟩ : Path).join "a.whl" =
      ⟨.here, Path.around turns ["dist", "a.whl"]⟩ := by
  have anchor : (Path.parse "a.whl").anchor = .here := by decide +kernel
  have names : (Path.parse "a.whl").names = ["a.whl"] := by decide +kernel
  rw [Path.join_eq_of_here anchor, names]
  exact congrArg (Path.mk .here) (Path.around_append _ _ _)

/-- The path of a directory can be short enough where that of a wheel in it is too long, and then
the wheel is not reported, though it is a file. Where the path of the directory is too long, not
even a dry run reports nothing. -/
theorem build_report_roundabout :
    (roundabout false 818).runner.dryRun = false ∧
      adding.files.Distinct ∧ adding.nextOutcome.ending.Succeeded ∧
      adding.files.isLong (roundabout false 818).dist = false ∧
      adding.proceed.files.isLong (roundabout false 818).dist = false ∧
      (roundabout false 818).IsNew adding.files adding.proceed.files "a.whl" ∧
      (∀ name, (roundabout false 818).IsNew adding.files adding.proceed.files name →
        ∃ bytes, adding.proceed.files.file? ((roundabout false 818).dist.join name) =
          some bytes) ∧
      (∀ report t, (roundabout false 818).build.run adding ≠ (.ok report, t)) ∧
      ∀ report t, (roundabout true 819).build.run adding ≠ (.ok report, t) := by
  have inner : adding.files.at? ["x"] = some .directory := by decide
  have inner' : adding.proceed.files.at? ["x"] = some .directory := by decide +kernel
  have listed : ∀ name, (roundabout false 818).IsNew adding.files adding.proceed.files name ↔
      name = "a.whl" := by
    intro name
    rw [← mem_newWheels _ .usual, wheelNames, wheelNames, dist_roundabout,
      FileTree.namesIn_around inner, FileTree.namesIn_around inner', newWheels,
      List.mem_mergeSort, ← List.mem_singleton]
    exact iff_of_eq (congrArg (name ∈ ·) (by decide +kernel))
  have long : adding.proceed.files.isLong ((roundabout false 818).dist.join "a.whl") = true := by
    rw [dist_roundabout, join_around, FileTree.isLong_around inner' _ (List.cons_ne_nil _ _)
      (by decide) (by decide +kernel)]
    decide +kernel
  refine ⟨rfl, by decide, rfl, ?_, ?_, (listed _).mpr rfl, fun name new => ?_, fun report t h => ?_,
    fun report t h => ?_⟩
  · rw [dist_roundabout, FileTree.isLong_around inner _ (List.cons_ne_nil _ _) (by decide)
      (by decide)]
    decide +kernel
  · rw [dist_roundabout, FileTree.isLong_around inner' _ (List.cons_ne_nil _ _) (by decide)
      (by decide +kernel)]
    decide +kernel
  · rw [(listed name).mp new, dist_roundabout, join_around, FileTree.file?_around inner']
    exact ⟨[80, 75], by decide +kernel⟩
  · obtain ⟨e, u, failed⟩ := error_of_not_reportable (s := adding) rfl fun reportable => by
      have file := reportable.files "a.whl" ((listed _).mpr rfl)
      rw [FileTree.isFile_of_long long] at file
      cases file
    cases h.symm.trans failed
  · have long' : adding.files.isLong (roundabout true 819).dist = true := by
      rw [dist_roundabout, FileTree.isLong_around inner _ (List.cons_ne_nil _ _) (by decide)
        (by decide)]
      decide +kernel
    cases h.symm.trans ((roundabout true 819).build_of_long long')

end WheelBuilder

end ImageRelease
