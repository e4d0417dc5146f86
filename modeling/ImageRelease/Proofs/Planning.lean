import ImageRelease.Proofs.Release.OneVersion
import ImageRelease.Proofs.Release.Rehearsal
import ImageRelease.Proofs.Surfaces

/-!
Plans that come true.

A plan reads the version first and the mode afterwards, a run asks for the mode first and for the
version only after the logins; the plan has one place to find that there is no version, the run has
two. `requestFrom_text` says that both come to the same request or to the same refusal, but for the
name that the version is asked by. With the forecast of a run, `plan_comes_true` follows: what a
plan prints is what a run delivers that nothing comes in the way of, dry or not, and a tag in which
a surrogate stands alone fails both.
-/

namespace ImageRelease

open Session Act

/-! ### Requests from a text -/

lemma Request.create_of_parse {asked : Asked} {mode : Mode} (h : Mode.parse asked = .ok mode)
    (version : Option String) : create asked version = create (.mode mode) version := by
  have same : Mode.parse (.mode mode) = .ok mode := rfl
  rw [create, create, h, same]

lemma Request.create_of_refused {asked : Asked} {r : Rejection} (h : Mode.parse asked = .error r)
    (version : Option String) : create asked version = .error r := by
  rw [create, h]

/-- A text makes a request for every mode, but for a release if it gives no version. -/
lemma Request.create_of_text (text : List Char) (key : String) (mode : Mode) :
    create (.mode mode) (Properties.version? text key) =
      if (Properties.version? text key).isNone ∧ mode = .release then
        .error (.missingVersion anyVersionKey)
      else .ok ⟨mode, (Properties.version? text key).getD "", true⟩ := by
  cases found : Properties.version? text key with
  | some version =>
    rw [create_of_version? found]
    rfl
  | none =>
    cases mode with
    | nightly => exact create_without_version (by decide)
    | release => rfl

lemma Mode.refused_of_parse {asked : Asked} {r : Rejection} (h : Mode.parse asked = .error r) :
    ∃ word, r = .invalidMode word := by
  cases asked with
  | nothing => cases h
  | mode m => cases h
  | word s =>
    simp only [Mode.parse] at h
    split at h
    · cases h
    · split at h
      · cases h
      · cases h
        exact ⟨_, rfl⟩

/-- A command line of a build with the tag, the arguments and the push of a plan. -/
def Plan.Builds (plan : Plan) (argv : List String) : Prop :=
  ∃ file context, argv =
    ["docker", "buildx", "build", "--file", file, "--tag", plan.selection.tag] ++
      plan.buildArgs.flatMap (fun a => ["--build-arg", a.1 ++ "=" ++ a.2]) ++
      [if plan.selection.push then "--push" else "--load", context]

/-- The two refusals that a plan foresees, by their codes. -/
def Plan.foreseen : List String :=
  ["INVALID_MODE", "MISSING_VERSION"]

/-! ### The version of a plan -/

lemma run_loaded {s : Session} {settings : Settings} (loaded : Settings.load s.env = .ok settings) :
    (ofExcept (Settings.load s.env)).run s = (.ok settings, s) := by
  rw [run_ofExcept, loaded]

namespace CommandLine

/-- The properties file that a plan is told to look into, if any. -/
def PlanOptions.file (o : PlanOptions) : Option String :=
  o.properties.filter (· != "")

/-- The version that is found: that of the file, or the one given. -/
def PlanOptions.found (o : PlanOptions) (settings : Settings) (files : FileTree) :
    Except Failure (Option String) :=
  match o.file with
  | none => .ok o.version
  | some path => Properties.readVersion files (.parse path) settings.versionKey

lemma PlanOptions.found_of_file {o : PlanOptions} {path : String} (h : o.file = some path)
    (settings : Settings) (files : FileTree) : o.found settings files =
      Properties.readVersion files (.parse path) settings.versionKey := by
  rw [found, h]

lemma run_plannedVersion (o : PlanOptions) (settings : Settings) (s : Session) :
    (plannedVersion o settings).run s = (o.found settings s.files, s) := by
  unfold plannedVersion PlanOptions.found PlanOptions.file
  cases o.properties.filter (· != "") with
  | none => rfl
  | some path =>
    dsimp only
    rw [run_bind_of_ok (run_state s), run_ofExcept]

end CommandLine

namespace Publisher

variable (p : Publisher)

/-- What a plan for this publisher makes of a text. -/
def requestOf (text : List Char) : Except Rejection Request :=
  Request.create p.asked (Properties.version? text p.settings.versionKey)

def planFrom (text : List Char) (places : Text.Surrogate.Places) : Except Failure Plan :=
  Plan.make p.asked (Properties.version? text p.settings.versionKey) p.settings.image.image places

variable {p} in
lemma planFrom_of_refused {text : List Char} {r : Rejection} (h : p.requestOf text = .error r)
    (places : Text.Surrogate.Places) : p.planFrom text places = .error (.rejected r) :=
  Plan.make_of_refused h _

variable {p} in
lemma planFrom_of_made {text : List Char} {request : Request}
    (h : p.requestOf text = .ok request) (places : Text.Surrogate.Places) :
    p.planFrom text places = if Text.IsUnicode (p.selection request).tag places
      then .ok (.ofRequest request p.settings.image.image)
      else .error (p.selection request).unwritable :=
  Plan.make_of_created h _

/-- How a run tells what its plan is refused for: it knows the key of the version. -/
def toldBy : Rejection → Rejection
  | .missingVersion _ => .missingVersion p.settings.versionKey
  | r => r

lemma refused_requestOf {text : List Char} {r : Rejection} (h : p.requestOf text = .error r) :
    r.isToolFailure = false ∧ r.report.code ∈ Plan.foreseen ∧
      (p.toldBy r).report.code = r.report.code := by
  unfold requestOf at h
  cases asked : Mode.parse p.asked with
  | error refused =>
    obtain ⟨word, rfl⟩ := Mode.refused_of_parse asked
    rw [Request.create_of_refused asked] at h
    cases h
    exact ⟨rfl, List.mem_cons_self, rfl⟩
  | ok mode =>
    rw [Request.create_of_parse asked, Request.create_of_text] at h
    split at h
    · cases h
      exact ⟨rfl, List.mem_cons_of_mem _ List.mem_cons_self, rfl⟩
    · cases h

/-- Once the mode is parsed, a run makes of a text what its plan makes of it. -/
lemma requestFrom_text {files : FileTree} {text : List Char} {mode : Mode}
    (read : Properties.text? files (p.root.join p.settings.propertiesFile) = .ok (some text))
    (asked : Mode.parse p.asked = .ok mode) :
    p.requestFrom mode files = (p.requestOf text).mapError fun r => .rejected (p.toldBy r) := by
  have version : p.versionFrom mode files =
      .ok (Properties.version? text p.settings.versionKey) := by
    rw [versionFrom, Properties.readVersion_eq, read]
  have made := Request.create_of_text text p.settings.versionKey mode
  rw [requestFrom, version, requestOf, Request.create_of_parse asked]
  dsimp only
  rw [made]
  split <;> rfl

section

variable {p} {files : FileTree} {text : List Char}
  (allowed : repositoryAllowed p.repository p.settings.allowedRepository = true)
  (read : Properties.text? files (p.root.join p.settings.propertiesFile) = .ok (some text))

include read

lemma requestFrom_of_planned {request : Request} (made : p.requestOf text = .ok request) :
    ∃ mode, Mode.parse p.asked = .ok mode ∧ p.requestFrom mode files = .ok request := by
  cases asked : Mode.parse p.asked with
  | error r => cases made.symm.trans (Request.create_of_refused asked _)
  | ok mode =>
    refine ⟨mode, rfl, ?_⟩
    rw [p.requestFrom_text read asked, made]
    rfl

include allowed

/-- Where the plan is refused, the run is to be refused as well, after the logins at most. -/
lemma forecast_of_refused {r : Rejection} (refused : p.requestOf text = .error r)
    (interpreter : String) :
    (p.forecast files interpreter 6 .authorize).1 = .error (.rejected (p.toldBy r)) ∧
      (p.forecast files interpreter 6 .authorize).2 <+: p.logins := by
  cases asked : Mode.parse p.asked with
  | error r' =>
    obtain ⟨word, rfl⟩ := Mode.refused_of_parse asked
    have same : p.requestOf text = .error (.invalidMode word) := Request.create_of_refused asked _
    obtain rfl : r = .invalidMode word := Except.error.inj (refused.symm.trans same)
    have validate : p.foreseen files .validate = .error (.rejected (.invalidMode word)) := by
      rw [foreseen, asked]
      rfl
    rw [forecast_of_turn (foreseen_authorize allowed _), forecast_of_failure validate]
    exact ⟨rfl, List.nil_prefix⟩
  | ok mode =>
    have resolve : p.foreseen files (.resolveVersion mode) =
        .error (.rejected (p.toldBy r)) := by
      rw [foreseen, p.requestFrom_text read asked, refused]
      rfl
    rw [forecast_of_turn (foreseen_authorize allowed _),
      forecast_of_turn (foreseen_validate asked _), forecast_of_turn rfl,
      forecast_of_failure resolve]
    refine ⟨rfl, ?_⟩
    simp only [callsIn, List.nil_append, List.append_nil]
    exact List.prefix_rfl

/-- Where the plan is made, the run is to deliver, and to build what the plan says at its end. -/
lemma forecast_of_planned {request : Request} (made : p.requestOf text = .ok request)
    (short : files.isLong p.distPath = false) (interpreter : String)
    (unicode : Text.IsUnicode (p.selection request).tag files.places) :
    p.forecast files interpreter 6 .authorize =
      (.ok true, p.logins ++ [([interpreter, "setup.py", "bdist_wheel"],
        some (p.root.join p.settings.wheelDirectory).text)] ++
          [(p.imageCommand request, none)]) := by
  obtain ⟨mode, asked, found⟩ := requestFrom_of_planned read made
  exact forecast_of_made _ allowed asked found short unicode

lemma forecast_of_unwritable {request : Request} (made : p.requestOf text = .ok request)
    (short : files.isLong p.distPath = false) (interpreter : String)
    (alone : ¬Text.IsUnicode (p.selection request).tag files.places) :
    p.forecast files interpreter 6 .authorize =
      (.error (p.selection request).unwritable, p.logins ++ [([interpreter, "setup.py",
        "bdist_wheel"], some (p.root.join p.settings.wheelDirectory).text)]) := by
  obtain ⟨mode, asked, found⟩ := requestFrom_of_planned read made
  exact forecast_of_alone _ allowed asked found short alone

end

/-! ### What is printed and what is done -/

/-- A command line plans a run: in its mode, with its settings, and from its properties file, which
is there and is a text. -/
structure Planned (o : CommandLine.PlanOptions) (s : Session) (text : List Char) : Prop where
  mode : p.asked = .word o.mode
  settings : Settings.load s.env = .ok p.settings
  file : ∃ name, o.properties = some name ∧ .parse name = p.root.join p.settings.propertiesFile
  read : Properties.text? s.files (p.root.join p.settings.propertiesFile) = .ok (some text)

/-- A run does what a plan says: it delivers the tag of the plan, and its last command, the only
build, is made by the plan. -/
structure Fulfils (x : Publishing) (plan : Plan) : Prop where
  delivers : ∃ r, (p.run.run x).1 = .ok r ∧ r.state = .delivered ∧
    r.imageTag = some plan.selection.tag
  builds : ∃ before argv, shapesOf (p.trace x) = before ++ [(argv, none)] ∧ plan.Builds argv ∧
    ∀ shape ∈ before, ¬["docker", "buildx", "build"] <+: shape.1

variable {p} {o : CommandLine.PlanOptions} {s : Session} {text : List Char}

lemma Planned.run_plan (planned : p.Planned o s text) :
    (CommandLine.plan o).run s = (p.planFrom text s.files.places, s) := by
  obtain ⟨name, given, path⟩ := planned.file
  have content := planned.read
  have named : name ≠ "" := by
    rintro rfl
    have nothing : Properties.text? s.files (.parse "") = .ok none := by
      rw [Properties.text?, FileTree.read?, s.files.isLong_nothing]
      rfl
    rw [← path, nothing] at content
    cases content
  have version : (CommandLine.plannedVersion o p.settings).run s =
      (.ok (Properties.version? text p.settings.versionKey), s) := by
    have chosen : o.file = some name := by simp [CommandLine.PlanOptions.file, given, named]
    rw [CommandLine.run_plannedVersion, CommandLine.PlanOptions.found_of_file chosen, path,
      Properties.readVersion_eq, content]
  rw [CommandLine.plan, run_bind_of_ok (run_state s), run_bind_of_ok (run_loaded planned.settings),
    run_bind_of_ok version, run_ofExcept, ← planned.mode]
  rfl

/-- How a plan is answered: with what it prints, or with its refusal. -/
lemma Planned.answer {args : List String} (planned : p.Planned o s text)
    (line : CommandLine.Invocation.read args = .ok (.plan o)) :
    ((CommandLine.run args).run s).1 =
      CommandLine.told ((p.planFrom text s.files.places).map fun plan => o.output.print plan) := by
  have run : CommandLine.run args =
      CommandLine.answering (do return o.output.print (← CommandLine.plan o)) := by
    rw [CommandLine.run, line]
    rfl
  rw [run, (CommandLine.run_answering _ s).1, run_bind_pure, planned.run_plan]

variable (p) in
lemma builds_imageCommand (request : Request) :
    (Plan.ofRequest request p.settings.image.image).Builds (p.imageCommand request) := by
  refine ⟨(p.root.join p.settings.image.dockerfile).text,
    (p.root.join p.settings.image.context).text, ?_⟩
  rfl

/-- What must not come in the way of a run for its plan to come true: the tools succeed, leave the
properties file as it is until it is read, and leave wheels that are files and can be looked up; a
release tag that is asked about is free; and the directory of wheels can be looked up, before they
are built and after. -/
structure Unhindered (p : Publisher) (s : Session) : Prop where
  undisturbed : p.dryRun = false → p.Undisturbed s
  before : (p.filesRead s).isLong p.distPath = false
  after : p.dryRun = false →
    (s.filesAfter (p.loginMoves.length + 1)).isLong p.distPath = false

/-- What stands in the properties file still stands there when the version is read. -/
lemma Unhindered.text? (unhindered : p.Unhindered s) :
    Properties.text? (p.filesRead s) (p.root.join p.settings.propertiesFile) =
      Properties.text? s.files (p.root.join p.settings.propertiesFile) := by
  unfold Properties.text?
  cases hd : p.dryRun with
  | true => rw [filesRead_of_dry hd]
  | false => rw [filesRead_of_real hd, (unhindered.undisturbed hd).properties]

variable {x : Publishing}

/-- The files tell the run beforehand, as they are when the version is read. -/
lemma run_of_unhindered (timely : x.session.Timely) (provided : p.Provided)
    (unhindered : p.Unhindered x.session) :
    (∀ e, (p.run.run x).1 = .error e ↔
        (p.forecast (p.filesRead x.session) x.session.interpreter 6 .authorize).1 = .error e) ∧
      shapesOf (p.trace x) =
        (p.forecast (p.filesRead x.session) x.session.interpreter 6 .authorize).2 := by
  rw [shapesOf_eq]
  exact run_forecast timely provided unhindered.undisturbed
    ⟨p.places_filesRead _, rfl, rfl,
      fun real => (unhindered.after real).trans unhindered.before.symm⟩

section

variable (read : Properties.text? (p.filesRead x.session) (p.root.join p.settings.propertiesFile) =
    .ok (some text))
  (allowed : repositoryAllowed p.repository p.settings.allowedRepository = true)
  (timely : x.session.Timely) (provided : p.Provided) (unhindered : p.Unhindered x.session)

include read

lemma requestIn_of_planned {request : Request} (made : p.requestOf text = .ok request) :
    p.requestIn x.session = .ok request := by
  obtain ⟨mode, asked, found⟩ := requestFrom_of_planned read made
  rw [requestIn, asked]
  exact found

include allowed timely provided unhindered

lemma fulfils_of_planned {request : Request} (made : p.requestOf text = .ok request)
    (unicode : Text.IsUnicode (p.selection request).tag x.session.files.places) :
    p.Fulfils x (.ofRequest request p.settings.image.image) := by
  obtain ⟨failures, commands⟩ := run_of_unhindered timely provided unhindered
  rw [← p.places_filesRead] at unicode
  rw [forecast_of_planned allowed read made unhindered.before _ unicode] at failures commands
  refine ⟨?_, _, p.imageCommand request, commands, p.builds_imageCommand _,
    fun shape hs => p.not_build_of_mem_front hs⟩
  have outcome := p.run_outcome timely
  generalize (p.run.run x).2.progress = g at outcome
  cases ended : (p.run.run x).1 with
  | error e => cases (failures e).mp ended
  | ok r =>
    rw [ended] at outcome
    have delivered : r.state = .delivered := by
      cases outcome with
      | skipped h => cases h.barred.symm.trans allowed
      | delivered h => exact h.state
    obtain ⟨request', asked, tag⟩ := (p.told_of_ok timely ended).2 delivered
    obtain rfl : request' = request :=
      Except.ok.inj (asked.symm.trans (requestIn_of_planned read made))
    exact ⟨r, rfl, delivered, tag⟩

/-- Where the plan is refused, the run is refused as well, and no image is built. -/
lemma refused_of_planned {r : Rejection} (refused : p.requestOf text = .error r) :
    (p.run.run x).1 = .error (.rejected (p.toldBy r)) ∧
      ∀ shape ∈ shapesOf (p.trace x), ¬["docker", "buildx", "build"] <+: shape.1 := by
  obtain ⟨failures, commands⟩ := run_of_unhindered timely provided unhindered
  obtain ⟨ending, logins⟩ := forecast_of_refused allowed read refused x.session.interpreter
  refine ⟨(failures _).mpr ending, fun shape hs => ?_⟩
  rw [commands] at hs
  have early : shape ∈ p.logins ++ [([x.session.interpreter, "setup.py", "bdist_wheel"],
      some (p.root.join p.settings.wheelDirectory).text)] :=
    List.mem_append_left _ (logins.subset hs)
  exact p.not_build_of_mem_front early

/-- Where the plan fails for a surrogate, the run fails for it as well, and no image is built. -/
lemma unwritable_of_planned {request : Request} (made : p.requestOf text = .ok request)
    (alone : ¬Text.IsUnicode (p.selection request).tag x.session.files.places) :
    (p.run.run x).1 = .error (p.selection request).unwritable ∧
      ∀ shape ∈ shapesOf (p.trace x), ¬["docker", "buildx", "build"] <+: shape.1 := by
  obtain ⟨failures, commands⟩ := run_of_unhindered timely provided unhindered
  rw [← p.places_filesRead] at alone
  rw [forecast_of_unwritable allowed read made unhindered.before _ alone] at failures commands
  refine ⟨(failures _).mpr rfl, fun shape hs => ?_⟩
  rw [commands] at hs
  exact p.not_build_of_mem_front hs

end

/-! ### Plans come true -/

/-- A plan is refused: the command line answers with status 2 and tells a code. -/
def PlanRefused (args : List String) (o : CommandLine.PlanOptions) (s : Session) (code : String) :
    Prop :=
  ∃ r, ((CommandLine.plan o).run s).1 = .error (.rejected r) ∧ r.report.code = code ∧
    ((CommandLine.run args).run s).1 = .ok (CommandLine.refusal r) ∧
    (CommandLine.refusal r).status = 2

/-- A plan and its run fail alike: the request of both has a tag in which a surrogate stands alone,
that of the image or of the version of a release, and no image is built. -/
structure FailsAlike (args : List String) (x : Publishing) (text : List Char) (request : Request) :
    Prop where
  made : p.requestOf text = .ok request
  alone : ¬(Text.IsUnicode p.settings.image.image x.session.files.places ∧
    (request.mode = .release → Text.IsUnicode request.version x.session.files.places))
  plan : ((CommandLine.run args).run x.session).1 = .error (p.selection request).unwritable
  run : (p.run.run x).1 = .error (p.selection request).unwritable
  builds : ∀ shape ∈ shapesOf (p.trace x), ¬["docker", "buildx", "build"] <+: shape.1

/-- **Plans come true**: a plan is printed, or it is refused with one of two codes, or it fails for
a surrogate in the tag, and the run with it. Where it is printed, the run does what it says; the run
is refused with one of these codes exactly if the plan is, and then no image is built. That holds of
every run that is not skipped and that nothing comes in the way of: for a real one, the credentials
are there, the tools succeed, leave the properties file as it is until it is read and leave wheels
that are files and can be looked up, and a release tag that is asked about is free; and for both,
the directory of wheels can be looked up when it is. -/
theorem plan_comes_true (p : Publisher) {args : List String} {o : CommandLine.PlanOptions}
    {x : Publishing} {text : List Char}
    (line : CommandLine.Invocation.read args = .ok (.plan o))
    (planned : p.Planned o x.session text)
    (allowed : repositoryAllowed p.repository p.settings.allowedRepository = true)
    (timely : x.session.Timely) (provided : p.Provided) (unhindered : p.Unhindered x.session) :
    ((∃ a, ((CommandLine.run args).run x.session).1 = .ok a ∧ a.status = 0) ∨
        (∃ code ∈ Plan.foreseen, PlanRefused args o x.session code) ∨
        ∃ request, p.FailsAlike args x text request) ∧
      (∀ a, ((CommandLine.run args).run x.session).1 = .ok a → a.status = 0 →
        ∃ plan, ((CommandLine.plan o).run x.session).1 = .ok plan ∧
          a.stdout = o.output.print plan ∧ p.Fulfils x plan) ∧
      ∀ code ∈ Plan.foreseen,
        (PlanRefused args o x.session code ↔
          ∃ r, (p.run.run x).1 = .error (.rejected r) ∧ r.report.code = code) ∧
        (PlanRefused args o x.session code →
          ∀ shape ∈ shapesOf (p.trace x), ¬["docker", "buildx", "build"] <+: shape.1) := by
  have answer := planned.answer line
  have plan := congrArg Prod.fst planned.run_plan
  have read := unhindered.text?.trans planned.read
  cases made : p.requestOf text with
  | ok request =>
    rw [planFrom_of_made made] at answer plan
    by_cases unicode : Text.IsUnicode (p.selection request).tag x.session.files.places
    · rw [if_pos unicode] at answer plan
      have fulfils := fulfils_of_planned read allowed timely provided unhindered made unicode
      have printed (code : String) : ¬PlanRefused args o x.session code :=
        fun ⟨r, refused, _⟩ => nomatch plan.symm.trans refused
      refine ⟨.inl ⟨_, answer, rfl⟩, fun a told zero => ?_, fun code _ => ⟨?_, ?_⟩⟩
      · rw [answer] at told
        cases told
        exact ⟨_, plan, rfl, fulfils⟩
      · obtain ⟨r, delivered, -⟩ := fulfils.delivers
        refine ⟨fun refused => absurd refused (printed code), fun ⟨r', failed, _⟩ => ?_⟩
        cases delivered.symm.trans failed
      · exact fun refused => absurd refused (printed code)
    · rw [if_neg unicode] at answer plan
      obtain ⟨failed, builds⟩ :=
        unwritable_of_planned read allowed timely provided unhindered made unicode
      have other (code : String) : ¬PlanRefused args o x.session code :=
        fun ⟨r, refused, _⟩ => nomatch plan.symm.trans refused
      have alone := (request.isUnicode_tag_iff p.settings.image.image).not.mp unicode
      refine ⟨.inr (.inr ⟨request, made, alone, answer, failed, builds⟩), fun a told => ?_,
        fun code _ => ⟨⟨fun refused => absurd refused (other code), ?_⟩, fun _ => builds⟩⟩
      · cases answer.symm.trans told
      · rintro ⟨r, failed', -⟩
        cases failed.symm.trans failed'
  | error r =>
    rw [planFrom_of_refused made] at answer plan
    obtain ⟨other, code_mem, same⟩ := p.refused_requestOf made
    obtain ⟨failed, builds⟩ := refused_of_planned read allowed timely provided unhindered made
    have status : (CommandLine.refusal r).status = 2 := by
      simp only [CommandLine.refusal, other, Bool.false_eq_true, ↓reduceIte]
    refine ⟨.inr (.inl ⟨_, code_mem, r, plan, rfl, answer, status⟩), fun a told zero => ?_,
      fun code _ => ⟨⟨?_, ?_⟩, fun _ => builds⟩⟩
    · rw [answer] at told
      cases told
      cases status.symm.trans zero
    · rintro ⟨r', refused, rfl, -⟩
      obtain rfl : r = r' := Failure.rejected.inj (Except.error.inj (plan.symm.trans refused))
      exact ⟨_, failed, same⟩
    · rintro ⟨r', failed', rfl⟩
      obtain rfl : p.toldBy r = r' :=
        Failure.rejected.inj (Except.error.inj (failed.symm.trans failed'))
      exact ⟨r, plan, same.symm, answer, status⟩

/-! ### A plan for example -/

/-- The variables of the usual settings, with a password and with what else is set. -/
def usualEnv (password : String) (more : Env) : Env :=
  more ++ [("AWS_ACCESS_KEY_ID", "key"), ("AWS_SECRET_ACCESS_KEY", "Zq8"),
    ("DOCKER_USERNAME", "user"), ("DOCKER_PASSWORD", password), ("ECR_REGISTRIES", "1"),
    ("PUBLISH_ALLOWED_REPOSITORY", "")]

/-- The usual publisher with a password, asked by a word. -/
def usualAsked (password word : String) : Publisher :=
  { usual "Zq8" password ["1"] with asked := .word word }

/-- A plan for the properties file, in a form for the platform. -/
def planOf (mode : String) : CommandLine.PlanOptions :=
  { mode, properties := some "gradle.properties", output := .github }

def releaseLine : List String :=
  ["plan", "--mode", "release", "--properties", "gradle.properties", "--output", "github"]

lemma read_releaseLine : CommandLine.Invocation.read releaseLine = .ok (.plan (planOf "release")) :=
  ok_of_toOption (by decide +kernel)

/-- A session with the usual settings in which a release has all that it needs. -/
def furnishedAsUsual : Session :=
  { furnished with env := usualEnv "Qx9" [] }

lemma unhindered_furnishedAsUsual :
    (usualAsked "Qx9" "release").Unhindered furnishedAsUsual := by
  have made : (usualAsked "Qx9" "release").requestIn furnishedAsUsual =
      .ok ⟨.release, "0.25.0", true⟩ := rfl
  refine ⟨fun _ => ⟨by decide +kernel, by rfl, by decide +kernel, fun request asked _ => ?_⟩,
    by decide +kernel, fun _ => by decide +kernel⟩
  rw [← Except.ok.inj (made.symm.trans asked)]
  exact ⟨{}, [], rfl, rfl⟩

/-- The plan of a release, and the release itself. -/
theorem plan_comes_true_usual :
    CommandLine.Invocation.read releaseLine = .ok (.plan (planOf "release")) ∧
      (usualAsked "Qx9" "release").Planned (planOf "release") furnishedAsUsual
        "djl_version=0.25.0\n".toList ∧
      (usualAsked "Qx9" "release").Unhindered furnishedAsUsual ∧
      (usualAsked "Qx9" "release").Fulfils ⟨furnishedAsUsual, {}⟩
        ⟨.release, ⟨"deepjavalibrary/djl-spark:0.25.0-cpu", true⟩,
          [("DJL_VERSION", "0.25.0")]⟩ := by
  have planned : (usualAsked "Qx9" "release").Planned (planOf "release") furnishedAsUsual
      "djl_version=0.25.0\n".toList := ⟨rfl, rfl, ⟨_, rfl, rfl⟩, rfl⟩
  have timely : furnishedAsUsual.Timely := by
    refine timely_of_still rfl rfl ?_
    simp [furnishedAsUsual, furnished]
  obtain ⟨-, printed, -⟩ := plan_comes_true (x := ⟨furnishedAsUsual, {}⟩)
    (usualAsked "Qx9" "release") read_releaseLine planned (by decide +kernel) timely
    (.inr (by decide +kernel)) unhindered_furnishedAsUsual
  have made : (usualAsked "Qx9" "release").requestOf "djl_version=0.25.0\n".toList =
      .ok ⟨.release, "0.25.0", true⟩ := rfl
  have answer := planned.answer read_releaseLine
  have plan := planned.run_plan
  rw [planFrom_of_made made, if_pos (by decide)] at answer plan
  obtain ⟨plan', same, -, fulfils⟩ := printed _ answer rfl
  rw [plan] at same
  cases same
  exact ⟨read_releaseLine, planned, unhindered_furnishedAsUsual, fulfils⟩

/-! ### Plans that do not come true -/

/-- A plan is printed for a nightly run that fails, though it is not skipped, every tool succeeds,
and the properties file is left as it is. -/
structure Thwarted (p : Publisher) (o : CommandLine.PlanOptions) (s : Session) : Prop where
  planned : ∃ text, p.Planned o s text
  allowed : repositoryAllowed p.repository p.settings.allowedRepository = true
  tools : ∀ o ∈ s.script, o.ending.Succeeded
  properties : (s.filesAfter p.loginMoves.length).read?
    (p.root.join p.settings.propertiesFile) = s.files.read? (p.root.join p.settings.propertiesFile)
  nightly : Mode.parse p.asked = .ok .nightly
  printed : ∃ plan, ((CommandLine.plan o).run s).1 = .ok plan
  fails : (p.run.run ⟨s, {}⟩).1.isOk = false

def unprovided : Session :=
  { Session.still [] (.response {}) with env := usualEnv "" [] }

/-- A session in which the build of the wheels makes a directory with the name of a wheel. -/
def makingDirectory : Session :=
  { Session.still [] (.response {}) with
    env := usualEnv "Qx9" []
    script := [{}, {}, {}, {},
      { changes := [("extensions/spark/setup/dist/djl.whl", .makeDirectory)] }] }

/-- The publisher whose directory of wheels has a name that is too long, asked by a word. -/
def longAsked : Publisher :=
  { longNamed with asked := .word "nightly" }

/-- A session in which the first tool makes a directory on the way to that name. -/
def openingUpAsUsual : Session :=
  { openingUp with
    env := usualEnv "Qx9" [("PUBLISH_WHEEL_DIR", "sub/" ++ .ofList (List.replicate 256 'a'))] }

def nightlyLine : List String :=
  ["plan", "--mode", "nightly", "--properties", "gradle.properties", "--output", "github"]

lemma read_nightlyLine : CommandLine.Invocation.read nightlyLine = .ok (.plan (planOf "nightly")) :=
  ok_of_toOption (by decide +kernel)

/-- The name of an image with a byte that is no text. -/
def garbledImage : String :=
  .ofList ['i', 'm', 'g', Text.Surrogate.ofUnit 0xDCFF]

/-- The publisher of that image, in a dry run. -/
def garbledAsked : Publisher :=
  let p := usualAsked "Qx9" "nightly"
  { p with dryRun := true, settings := { p.settings with
      image := { p.settings.image with image := garbledImage } } }

def garbledAsUsual : Session :=
  { Session.still [] (.response {}) with env := usualEnv "Qx9" [("PUBLISH_IMAGE", garbledImage)] }

lemma failsAlike_garbled : garbledAsked.FailsAlike nightlyLine ⟨garbledAsUsual, {}⟩
    "djl_version=0.25.0\n".toList ⟨.nightly, "0.25.0", true⟩ := by
  have made : garbledAsked.requestOf "djl_version=0.25.0\n".toList =
      .ok ⟨.nightly, "0.25.0", true⟩ := rfl
  have planned : garbledAsked.Planned (planOf "nightly") garbledAsUsual
      "djl_version=0.25.0\n".toList := ⟨rfl, rfl, ⟨_, rfl, rfl⟩, rfl⟩
  have alone : ¬Text.IsUnicode (garbledAsked.selection ⟨.nightly, "0.25.0", true⟩).tag
      garbledAsUsual.files.places := by
    decide +kernel
  have unhindered : garbledAsked.Unhindered garbledAsUsual := ⟨nofun, by decide +kernel, nofun⟩
  have timely : garbledAsUsual.Timely := by
    refine timely_of_still rfl rfl ?_
    simp [garbledAsUsual, Session.still]
  have answer := planned.answer read_nightlyLine
  rw [planFrom_of_made made, if_neg alone] at answer
  obtain ⟨failed, builds⟩ := unwritable_of_planned (x := ⟨garbledAsUsual, {}⟩)
    (unhindered.text?.trans planned.read) (by decide +kernel) timely (.inl rfl) unhindered made
    alone
  exact ⟨made, by decide +kernel, answer, failed, builds⟩

/-- A plan that is printed does not come true where a credential is missing, where a new wheel is no
file, or where the directory of wheels cannot be looked up; and a plan for an image whose name is no
text is neither printed nor refused. -/
theorem plan_comes_true_thwarted :
    (usualAsked "" "nightly").Thwarted (planOf "nightly") unprovided ∧
      (usualAsked "Qx9" "nightly").Thwarted (planOf "nightly") makingDirectory ∧
      longAsked.Thwarted (planOf "nightly") openingUpAsUsual ∧
      ∃ text request, garbledAsked.FailsAlike nightlyLine ⟨garbledAsUsual, {}⟩ text request := by
  refine ⟨?_, ?_, ?_, _, _, failsAlike_garbled⟩
  · exact {
      planned := ⟨"djl_version=0.25.0\n".toList, rfl, rfl, ⟨_, rfl, rfl⟩, rfl⟩
      allowed := by decide +kernel
      tools := nofun
      properties := rfl
      nightly := rfl
      printed := ⟨_, rfl⟩
      fails := by decide +kernel }
  · exact {
      planned := ⟨"djl_version=0.25.0\n".toList, rfl, rfl, ⟨_, rfl, rfl⟩, rfl⟩
      allowed := by decide +kernel
      tools := by decide +kernel
      properties := by rfl
      nightly := rfl
      printed := ⟨_, rfl⟩
      fails := by decide +kernel }
  · exact {
      planned := ⟨"djl_version=0.25.0\n".toList, rfl, rfl, ⟨_, rfl, rfl⟩, rfl⟩
      allowed := by decide +kernel
      tools := by
        intro o ho
        rw [List.mem_singleton.mp ho]
        rfl
      properties := by rfl
      nightly := rfl
      printed := ⟨_, rfl⟩
      fails := by
        refine fails_of_long (by decide +kernel) ?_
        have path : longAsked.distPath = longNamed.distPath := rfl
        rw [path, isLong_longNamed]
        decide +kernel }

end Publisher

end ImageRelease
