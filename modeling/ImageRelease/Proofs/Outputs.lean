import ImageRelease.Proofs.Agreement
import ImageRelease.Proofs.WrittenEntries

/-!
A plan printed for a workflow.

The workflow reads what is printed line by line, each line as a name and its value. Nothing is
escaped, so the selected tag is read as it is exactly if no line ends in it. Neither the image nor
the suffix ends a line, and a properties file is cut into lines before a version is found in it:
`github_outputs` says that nothing but a line end in a version from the command line can change what
is read.
-/

namespace ImageRelease

open Text

/-- What a selection is to be read as: the tag, and whether it is pushed. -/
def Selection.outputs (s : Selection) : List (String × String) :=
  [("tag", s.tag), ("push", if s.push then "true" else "false")]

def outputsOf (text : String) : List (String × String) :=
  (lines text.toList).filterMap Entries.ofText?

/-- A text is read as a selection: it has a line for each of its outputs, and no other line, and its
names and values are these outputs. -/
structure Selection.IsReadIn (s : Selection) (text : String) : Prop where
  lines : lines text.toList = s.outputs.map fun e => (e.1 ++ "=" ++ e.2).toList
  outputs : outputsOf text = s.outputs

/-! ### Tags without a line end -/

lemma isPlain_append {a b : List Char} : IsPlain (a ++ b) ↔ IsPlain a ∧ IsPlain b :=
  List.forall_mem_append

/-- A line ends in a tag where it ends in the image, or in the version of a release. -/
lemma isPlain_tag (r : Request) (image : String) :
    IsPlain (r.select image).tag.toList ↔
      IsPlain image.toList ∧ (r.mode = .release → IsPlain r.version.toList) := by
  have colon : IsPlain ":".toList := by decide
  have nightly : IsPlain nightlyTag.toList := by decide
  have suffix : IsPlain releaseSuffix.toList := by decide
  have parts : (r.select image).tag.toList =
      image.toList ++ (":".toList ++ r.reference.toList) := by
    rw [Request.select, String.toList_append, String.toList_append, List.append_assoc]
  rw [parts, isPlain_append, isPlain_append, and_iff_right colon, Request.reference]
  refine and_congr_right fun _ => ?_
  cases r.mode with
  | nightly => simp [nightly]
  | release => simp only [String.toList_append, isPlain_append, suffix, and_true, forall_const]

/-- No line ends in a version that a text gives: the text was cut where lines end. -/
lemma Properties.isPlain_version? {text : List Char} {key version : String}
    (h : version? text key = some version) : IsPlain version.toList := by
  obtain ⟨found, -⟩ := Option.filter_eq_some_iff.mp h
  obtain ⟨tidy, once⟩ := parse_tidy text
  exact (tidy _ ((Entries.mem_iff_get? once).mpr found)).valuePlain

/-! ### What is printed -/

lemma toList_print_github (plan : Plan) :
    (CommandLine.Output.print plan .github).toList =
      ("tag=" ++ plan.selection.tag).toList ++ '\n' ::
        (("push=" ++ (if plan.selection.push then "true" else "false")).toList ++ ['\n']) := by
  simp [CommandLine.Output.print]

/-- What is printed is read as the selection if, and only if, no line ends in its tag. -/
lemma isReadIn_print_iff (plan : Plan) :
    plan.selection.IsReadIn (CommandLine.Output.print plan .github) ↔
      IsPlain plan.selection.tag.toList := by
  constructor
  · intro h
    have line : ("tag=" ++ plan.selection.tag).toList ∈
        lines (CommandLine.Output.print plan .github).toList := by
      rw [h.lines]
      exact List.mem_cons_self
    have plain := (plain_of_mem_lines line).1
    rw [String.toList_append] at plain
    exact (isPlain_append.mp plain).2
  · intro plain
    have tag : IsPlain ("tag=" ++ plan.selection.tag).toList := by
      rw [String.toList_append]
      exact isPlain_append.mpr ⟨by decide, plain⟩
    have push : IsPlain ("push=" ++ (if plan.selection.push then "true" else "false")).toList := by
      cases plan.selection.push <;> decide
    have printed : lines (CommandLine.Output.print plan .github).toList =
        plan.selection.outputs.map fun e => (e.1 ++ "=" ++ e.2).toList := by
      rw [toList_print_github, lines_plain_append tag, lines_plain_append push]
      rfl
    refine ⟨printed, ?_⟩
    rw [outputsOf, printed, Selection.outputs]
    simp only [List.map_cons, List.map_nil]
    rw [List.filterMap_cons_some (Entries.ofText?_append (by decide) _),
      List.filterMap_cons_some (Entries.ofText?_append (by decide) _), List.filterMap_nil]

/-! ### Where the version comes from -/

/-- A request has the version that is given, without the blanks at its ends. -/
lemma Request.version_of_create {asked : Asked} {version : Option String} {request : Request}
    (h : create asked version = .ok request) : request.version = Text.strip (version.getD "") := by
  unfold create at h
  split at h
  · cases h
  · dsimp only at h
    split at h
    · cases h
    · cases h
      rfl

namespace CommandLine

open Session Act

variable {o : PlanOptions} {settings : Settings} {s t : Session} {planned : Plan}

lemma isPlain_of_file {files : FileTree} {version : Option String} (file : o.file ≠ none)
    (found : o.found settings files = .ok version) : IsPlain (version.getD "").toList := by
  obtain ⟨path, file⟩ := Option.ne_none_iff_exists'.mp file
  rw [PlanOptions.found_of_file file] at found
  obtain ⟨text, -, rfl⟩ := Properties.version?_of_readVersion found
  cases given : Properties.version? text settings.versionKey with
  | none => decide
  | some version => exact Properties.isPlain_version? given

/-- A plan that is accepted is that of a request with the version that was found, and its tag can
be written. -/
lemma request_of_run_plan (loaded : Settings.load s.env = .ok settings)
    (accepted : (plan o).run s = (.ok planned, t)) :
    ∃ version request, o.found settings s.files = .ok version ∧
      Request.create (.word o.mode) version = .ok request ∧
      planned = .ofRequest request settings.image.image ∧
      Text.IsUnicode planned.selection.tag s.files.places := by
  rw [plan, run_bind_of_ok (run_state s), run_bind_of_ok (run_loaded loaded)] at accepted
  have versioned := run_plannedVersion o settings s
  cases found : o.found settings s.files with
  | error e =>
    rw [found] at versioned
    rw [run_bind_of_error versioned] at accepted
    cases accepted
  | ok version =>
    rw [found] at versioned
    rw [run_bind_of_ok versioned, run_ofExcept] at accepted
    cases created : Request.create (.word o.mode) version with
    | error r =>
      rw [Plan.make_of_refused created] at accepted
      cases accepted
    | ok request =>
      rw [Plan.make_of_created created] at accepted
      split at accepted
      · case isTrue unicode =>
        cases accepted
        exact ⟨version, request, rfl, created, rfl, unicode⟩
      · cases accepted

/-- **What a workflow reads of a plan.** A plan that is accepted is printed, for the tag that is
selected with the version of the properties file or the one that was given. Where no line ends in
the name of the image, what is printed is read as the selected tag and the push decision, and as
nothing else, for all nightly runs, and for a release exactly if no line ends within its version.
That is so for each version that comes from a properties file. -/
theorem github_outputs {args : List String} (line : Invocation.read args = .ok (.plan o))
    (form : o.output = .github) (loaded : Settings.load s.env = .ok settings)
    (image : IsPlain settings.image.image.toList) (accepted : (plan o).run s = (.ok planned, t)) :
    ∃ version stdout, (plannedVersion o settings).run s = (.ok version, s) ∧
      selectTag (.word o.mode) version settings.image.image s.files.places =
        .ok planned.selection ∧
      ((run args).run s).1 = .ok { stdout } ∧
      (planned.selection.IsReadIn stdout ↔
        (planned.mode = .release → IsPlain (strip (version.getD "")).toList)) ∧
      (o.file ≠ none → planned.selection.IsReadIn stdout) := by
  obtain ⟨version, request, found, created, rfl, unicode⟩ := request_of_run_plan loaded accepted
  have read : (Plan.ofRequest request settings.image.image).selection.IsReadIn
      (Output.print (.ofRequest request settings.image.image) .github) ↔
        (request.mode = .release → IsPlain (strip (version.getD "")).toList) := by
    rw [isReadIn_print_iff, ← Request.version_of_create created]
    exact (isPlain_tag request _).trans (and_iff_right image)
  refine ⟨version, Output.print (.ofRequest request settings.image.image) .github, ?_, ?_, ?_, read,
    fun file => read.mpr fun _ => ?_⟩
  · rw [run_plannedVersion, found]
  · rw [selectTag_eq, Plan.make_of_created created]
    exact congrArg (Except.map _) (if_pos unicode)
  · have asked : run args = answering (do return o.output.print (← plan o)) := by
      rw [run, line]
      rfl
    rw [asked, (run_answering _ s).1, run_bind_pure, accepted, form]
    rfl
  · rw [strip, String.toList_ofList]
    exact fun c hc => isPlain_of_file file found c (trim_subset _ hc)

def bare : Session where
  identifier := ""

/-- A release of a version with line ends around it. -/
theorem github_outputs_padded :
    Invocation.read (planLine (some "release") (some "\n0.25.0\u2028") (some .github)) =
        .ok (.plan ⟨"release", some "\n0.25.0\u2028", none, .github⟩) ∧
      ∃ planned stdout, (plan ⟨"release", some "\n0.25.0\u2028", none, .github⟩).run bare =
          (.ok planned, bare) ∧
        ((run (planLine (some "release") (some "\n0.25.0\u2028") (some .github))).run bare).1 =
          .ok { stdout } ∧
        planned.selection.IsReadIn stdout ∧
        planned.selection.outputs = [("tag", usualImage ++ ":0.25.0-cpu"), ("push", "true")] := by
  have line := read_planLine (some "release") (some "\n0.25.0\u2028") (some .github)
  have usual : ∃ settings, Settings.load bare.env = .ok settings ∧
      settings.image.image = usualImage := ⟨_, rfl, rfl⟩
  obtain ⟨settings, loaded, image⟩ := usual
  have plain : IsPlain settings.image.image.toList := by
    rw [image]
    decide
  have made : Plan.make (.word "release") (some "\n0.25.0\u2028") settings.image.image
      bare.files.places =
        .ok ⟨.release, ⟨usualImage ++ ":0.25.0-cpu", true⟩, [("DJL_VERSION", "0.25.0")]⟩ := by
    rw [image]
    rfl
  have accepted := run_plan_versioned loaded "release" (some "\n0.25.0\u2028") .github
  rw [made] at accepted
  obtain ⟨version, stdout, found, -, answer, read, -⟩ :=
    github_outputs line rfl loaded plain accepted
  cases found
  exact ⟨line, _, stdout, accepted, answer, read.mpr fun _ => by decide, rfl⟩

/-- A version with line ends within it, and with equals signs behind them. -/
def forging : String :=
  "1\ntag=other:2\nx="

/-- It adds an output and gives another one a second value. -/
theorem github_outputs_forged :
    ∃ planned stdout, (plan ⟨"release", some forging, none, .github⟩).run bare =
        (.ok planned, bare) ∧
      ((run ["plan", "--mode=release", "--version=" ++ forging, "--output", "github"]).run bare).1 =
        .ok { stdout } ∧
      ¬planned.selection.IsReadIn stdout ∧
      outputsOf stdout = [("tag", usualImage ++ ":1"), ("tag", "other:2"), ("x", "-cpu"),
        ("push", "true")] := by
  have usual : ∃ settings, Settings.load bare.env = .ok settings ∧
      settings.image.image = usualImage := ⟨_, rfl, rfl⟩
  obtain ⟨settings, loaded, image⟩ := usual
  have made : Plan.make (.word "release") (some forging) settings.image.image bare.files.places =
      .ok ⟨.release, ⟨usualImage ++ ":" ++ forging ++ "-cpu", true⟩,
        [("DJL_VERSION", forging)]⟩ := by
    rw [image]
    rfl
  have accepted := run_plan_versioned loaded "release" (some forging) .github
  have answer := run_planLine loaded (some "release") (some forging) (some .github)
  have line : planLine (some "release") (some forging) (some .github) =
      ["plan", "--mode=release", "--version=" ++ forging, "--output", "github"] := by decide +kernel
  have nightly : Mode.parse (.word "") = .ok .nightly := rfl
  have decided : _ = Plan.decided _ _ _ bare.files.places :=
    Plan.make_eq_decided settings.image.image (some "release") (some forging) nightly
  rw [Option.getD_some, made] at decided
  rw [← decided, line] at answer
  rw [made] at accepted
  refine ⟨_, _, accepted, answer, fun read => ?_, by decide +kernel⟩
  have plain := (isReadIn_print_iff _).mp read
  revert plain
  decide +kernel

end CommandLine

end ImageRelease
