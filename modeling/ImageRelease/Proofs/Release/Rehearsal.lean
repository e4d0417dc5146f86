import ImageRelease.Proofs.Release.Push
import ImageRelease.Proofs.Session.Sure

/-!
The dry run as a rehearsal.

Where nothing comes in between, a run is settled by its settings and by the files that it finds:
`forecast` goes through the turns with these alone, and by `run_forecast` a run comes to the
forecast of files that foretell it. The files at the start foretell every dry run, since nothing can
come in between, and every smooth one. As the forecast does not ask whether a run is dry, a dry run
tells beforehand what the real one comes to.
-/

namespace ImageRelease

open Session Act

lemma run_inSession_of_ok {α : Type} {x : Act Session α} {y : Publishing} {a : α} {s : Session}
    (h : x.run y.session = (.ok a, s)) : (inSession x).run y = (.ok a, ⟨s, y.progress⟩) := by
  rw [inSession, run_within, h]

namespace Publisher

variable (p : Publisher)

def distPath : Path :=
  (p.root.join p.settings.wheelDirectory).join "dist"

lemma dist_wheelBuilder (interpreter : String) :
    (p.wheelBuilder interpreter).dist = p.distPath := rfl

/-- A world in which nothing comes in between: every tool exits with zero, no tool changes what the
path of the properties file gives before it is read, what is new among the wheels are files that
can be looked up, and the registry answers 404 where it is asked. -/
structure Undisturbed (s : Session) : Prop where
  tools : ∀ o ∈ s.script, o.ending.Succeeded
  properties : (s.filesAfter p.loginMoves.length).read?
    (p.root.join p.settings.propertiesFile) = s.files.read? (p.root.join p.settings.propertiesFile)
  wheels : ∀ name ∈ WheelBuilder.newWheels
      ((p.wheelBuilder s.interpreter).wheelNames (s.filesAfter p.loginMoves.length))
      ((p.wheelBuilder s.interpreter).wheelNames (s.filesAfter (p.loginMoves.length + 1))),
    (s.filesAfter (p.loginMoves.length + 1)).isFile (p.distPath.join name) = true
  free : ∀ request, p.requestIn s = .ok request → p.Guards request →
    ∃ r content, Hub.answer (p.lookupUrl (p.selection request)) s.reply = .ok (r, content) ∧
      r.status = 404

/-- Moreover no tool changes whether the directory of wheels can be looked up, which it cannot be
where a name on its path is too long. -/
structure Smooth (s : Session) : Prop extends p.Undisturbed s where
  reach : ∀ n ∈ [p.loginMoves.length, p.loginMoves.length + 1],
    (s.filesAfter n).isLong p.distPath = s.files.isLong p.distPath

/-! ### Forecasts -/

/-- What a turn is to come to. -/
def foreseen (files : FileTree) : Turn → Except Failure Next
  | .authorize =>
    .ok (if repositoryAllowed p.repository p.settings.allowedRepository then .turn .validate
      else .finish false)
  | .validate =>
    ((Mode.parse p.asked).map fun mode => .turn (.credentials mode)).mapError Failure.rejected
  | .credentials mode => .ok (.turn (.resolveVersion mode))
  | .resolveVersion mode =>
    (p.requestFrom mode files).map fun request => .turn (.buildWheel request)
  | .buildWheel request =>
    if files.isLong p.distPath then .error (.longName p.distPath.text)
    else .ok (.turn (.publishImage request))
  | .publishImage request =>
    (request.selection p.settings.image.image files.places).map fun _ => .finish true

def callsIn (files : FileTree) (interpreter : String) : Turn → List (List String × Option String)
  | .authorize | .validate | .resolveVersion _ => []
  | .credentials _ => p.logins
  | .buildWheel _ =>
    if files.isLong p.distPath then []
    else [([interpreter, "setup.py", "bdist_wheel"],
      some (p.root.join p.settings.wheelDirectory).text)]
  | .publishImage request =>
    if Text.IsUnicode (p.selection request).tag files.places then [(p.imageCommand request, none)]
    else []

/-- What the turns are to come to, from one on, and the calls that they are to make. -/
def forecast (files : FileTree) (interpreter : String) :
    Nat → Turn → Except Failure Bool × List (List String × Option String)
  | 0, _ => (.ok false, [])
  | n + 1, t =>
    match p.foreseen files t with
    | .error e => (.error e, p.callsIn files interpreter t)
    | .ok (.finish delivered) => (.ok delivered, p.callsIn files interpreter t)
    | .ok (.turn t') =>
      let rest := forecast files interpreter n t'
      (rest.1, p.callsIn files interpreter t ++ rest.2)

lemma forecast_dryRun (dry : Bool) (files : FileTree) (interpreter : String) (n : Nat) (t : Turn) :
    ({ p with dryRun := dry } : Publisher).forecast files interpreter n t =
      p.forecast files interpreter n t := by
  induction n generalizing t with
  | zero => rfl
  | succ n ih =>
    have same : ({ p with dryRun := dry } : Publisher).foreseen files t = p.foreseen files t := by
      cases t <;> rfl
    have calls : ({ p with dryRun := dry } : Publisher).callsIn files interpreter t =
        p.callsIn files interpreter t := by
      cases t <;> rfl
    simp only [forecast, same, calls, ih]

/-! ### Turns that are foretold -/

variable {p} {x y z : Publishing} {t : Turn}

lemma versionFrom_congr {mode : Mode} {files files' : FileTree}
    (h : files.read? (p.root.join p.settings.propertiesFile) =
      files'.read? (p.root.join p.settings.propertiesFile)) :
    p.versionFrom mode files = p.versionFrom mode files' := by
  unfold versionFrom Properties.readVersion
  rw [h]

lemma requestFrom_congr {mode : Mode} {files files' : FileTree}
    (h : files.read? (p.root.join p.settings.propertiesFile) =
      files'.read? (p.root.join p.settings.propertiesFile)) :
    p.requestFrom mode files = p.requestFrom mode files' := by
  unfold requestFrom
  rw [versionFrom_congr h]

lemma checkedLogins_isOk (provided : p.Provided) (kind : y.session.Kind p.manner) :
    (p.checkedLogins.run y).1.isOk = true := by
  have logins : (p.loggingIn.run y).1.isOk = true := by
    obtain ⟨_, s₁, h₁, kind₁⟩ := p.docker.sure_setupBuildx p.settings.aws y.session kind
    obtain ⟨hosts, s₂, h₂, kind₂⟩ :=
      Ecr.sure_login p.settings.aws p.runner p.settings.aws.registries s₁ kind₁
    obtain ⟨_, s₃, h₃, -⟩ := p.docker.sure_login p.settings.aws p.settings.dockerHub.username
      p.settings.dockerHub.password s₂ kind₂
    unfold loggingIn
    rw [run_bind_of_ok (run_inSession_of_ok h₁), run_bind_of_ok (run_inSession_of_ok h₂),
      run_bind_of_ok (run_inSession_of_ok h₃)]
    rfl
  unfold checkedLogins
  split
  · case isTrue real =>
    have valid : p.settings.validateCredentials = .ok () := by
      unfold Settings.validateCredentials
      rw [provided.resolve_left (by simpa using real)]
    rw [valid]
    exact logins
  · exact logins

lemma making_isOk {request : Request} (kind : y.session.Kind p.manner)
    (free : p.dryRun = false → p.Guards request →
      Hub.found (p.lookupUrl (p.selection request)) y.session.reply = .ok false) :
    ((p.making request).run y).1.isOk = true := by
  have building : ∀ s : Session, s.Kind p.manner →
      ((do let _ ← inSession (p.docker.build (p.buildSpec request (p.selection request))) :
        Act Publishing Unit).run ⟨s, y.progress⟩).1.isOk = true := by
    intro s kind
    obtain ⟨done, t, built, -⟩ := p.docker.sure_build p.settings.aws _ s kind
    rw [run_bind_of_ok (run_inSession_of_ok built)]
    rfl
  unfold making
  split
  · case isTrue guards =>
    have guards := (p.guards_iff request).mp guards
    obtain ⟨new, lead, -⟩ := p.follows_checkUnreleased request y.session
    have unreleased : ((p.checkUnreleased (p.selection request)).run y.session).1 = .ok () := by
      cases hd : p.dryRun with
      | true =>
        unfold checkUnreleased
        rw [hd]
        rfl
      | false =>
        obtain ⟨_, -, -, same⟩ :=
          p.checkUnreleased_leads hd (p.colon_mem_selection request) y.session
        rw [same]
        unfold checked
        rw [free hd guards]
    rcases hc : (p.checkUnreleased (p.selection request)).run y.session with ⟨result, s⟩
    rw [hc] at lead unreleased
    cases unreleased
    rw [run_bind_of_ok (run_inSession_of_ok hc)]
    exact building s (kind.leads lead)
  · exact building y.session kind

/-- Where the directory of wheels cannot be looked up, no wheel is built. -/
lemma follows_buildWheel_of_long (request : Request)
    (long : y.session.files.isLong p.distPath = true) :
    (p.take (.buildWheel request)).FollowsFrom p.manner Publishing.session [] y := by
  have still : (inSession (p.wheelBuilder y.session.interpreter).build).run y =
      (.error (.longName p.distPath.text), y) := by
    rw [← p.dist_wheelBuilder y.session.interpreter] at long ⊢
    rw [inSession, run_within, WheelBuilder.build_of_long _ long]
  have making : (p.makingWheels y.session.interpreter).FollowsFrom p.manner Publishing.session []
      y := by
    refine FollowsFrom.before ⟨[], ?_, .of_quiet rfl _⟩ fun _ => ?_
    · rw [still]
      exact .nil _
    · exact (follows_update _).after fun _ => follows_pure _
  exact (p.follows_buildWheel_of making).before fun _ => follows_pure _

lemma follows_publishImage_of_alone {request : Request}
    (alone : ¬Text.IsUnicode (p.selection request).tag y.session.files.places) :
    (p.take (.publishImage request)).FollowsFrom p.manner Publishing.session [] y := by
  refine FollowsFrom.before ⟨[], ?_, .of_quiet rfl _⟩ fun _ =>
    (follows_enter _).after fun _ => follows_pure _
  rw [p.publishImage_unwritable alone]
  exact .nil _

variable (p) in
/-- Files that tell beforehand what a run will find: its properties file when the version is read,
and whether its wheels can be looked up, before they are built and after. -/
structure Foretells (files : FileTree) (s : Session) : Prop where
  places : files.places = s.files.places
  properties : (p.filesRead s).read? (p.root.join p.settings.propertiesFile) =
    files.read? (p.root.join p.settings.propertiesFile)
  before : (p.filesRead s).isLong p.distPath = files.isLong p.distPath
  after : p.dryRun = false →
    (s.filesAfter (p.loginMoves.length + 1)).isLong p.distPath = files.isLong p.distPath

lemma filesRead_of_dry (dry : p.dryRun = true) (s : Session) : p.filesRead s = s.files := by
  rw [filesRead, dry]
  rfl

lemma filesRead_of_real (real : p.dryRun = false) (s : Session) :
    p.filesRead s = s.filesAfter p.loginMoves.length := by
  rw [filesRead, real]
  rfl

lemma foretells_of_smooth {s : Session} (smooth : p.dryRun = false → p.Smooth s) :
    p.Foretells s.files s := by
  cases hd : p.dryRun with
  | true =>
    have read := filesRead_of_dry hd s
    exact ⟨rfl, by rw [read], by rw [read], fun real => nomatch hd.symm.trans real⟩
  | false =>
    have read := filesRead_of_real hd s
    have smooth := smooth hd
    exact ⟨rfl, by rw [read, smooth.properties], by rw [read, smooth.reach _ List.mem_cons_self],
      fun _ => smooth.reach _ (List.mem_cons_of_mem _ List.mem_cons_self)⟩

section

variable {files : FileTree} (undisturbed : p.dryRun = false → p.Undisturbed x.session)
  (foretold : p.Foretells files x.session) (comes : p.Comes x t y)
include undisturbed comes

lemma Comes.kind : y.session.Kind p.manner := by
  obtain ⟨-, new, lead, -⟩ := comes.moved
  exact Kind.leads (fun real => (undisturbed real).tools) lead

lemma Comes.free {request : Request} (turn : t = .publishImage request) (real : p.dryRun = false)
    (guards : p.Guards request) :
    Hub.found (p.lookupUrl (p.selection request)) y.session.reply = .ok false := by
  subst turn
  obtain ⟨found, new, lead, -⟩ := comes.moved
  obtain ⟨r, content, answer, status⟩ := (undisturbed real).free request found guards
  rw [lead.reply]
  simp [Hub.found, Hub.verdict, answer, status]

include foretold

/-- Where the directory can be looked up, the wheels are there to be inspected. -/
lemma Comes.finds {request : Request} (turn : t = .buildWheel request)
    (short : files.isLong p.distPath = false) (real : p.dryRun = false) :
    (p.wheelBuilder y.session.interpreter).Finds y.session.files (y.session.filesAfter 1) := by
  subst turn
  obtain ⟨-, new, lead, moves⟩ := comes.moved
  have one : startedIn new = p.loginMoves.length := by
    rw [lead.startedIn (by rw [moves]; exact p.lookup_not_mem_loginMoves), moves]
    exact if_neg (by simp [manner, Runner.manner, runner, real])
  have before : y.session.files = x.session.filesAfter p.loginMoves.length := by
    rw [← one]
    exact lead.files
  have after := lead.filesAfter 1
  rw [one] at after
  rw [before, after]
  refine ⟨?_, ?_⟩
  · rw [dist_wheelBuilder, foretold.after real, short]
  · rw [lead.interpreter]
    exact (undisturbed real).wheels

lemma Comes.built {request : Request} (turn : t = .buildWheel request) :
    if files.isLong p.distPath then
      ((p.wheelBuilder y.session.interpreter).build.run y.session).1 =
        .error (.longName p.distPath.text)
    else ((p.wheelBuilder y.session.interpreter).build.run y.session).1.isOk = true := by
  have reach : y.session.files.isLong (p.wheelBuilder y.session.interpreter).dist =
      files.isLong p.distPath := by
    subst turn
    obtain ⟨-, new, lead, moves⟩ := comes.moved
    rw [p.files_of_logins lead moves]
    exact foretold.before
  split
  · case isTrue long =>
    rw [WheelBuilder.build_of_long _ (reach.trans long)]
    rfl
  · case isFalse short =>
    have short := Bool.eq_false_iff.mpr short
    exact WheelBuilder.build_isOk p.settings.aws _ (comes.kind undisturbed) (reach.trans short)
      (comes.finds undisturbed foretold turn short)

lemma Comes.result (timely : x.session.Timely) (provided : p.Provided) :
    ((p.take t).run y).1 = p.foreseen files t := by
  obtain ⟨found, new, lead, moves⟩ := comes.moved
  have kind := comes.kind undisturbed
  rcases took : (p.take t).run y with ⟨e | next, z⟩
  -- no tool and no reply gives cause for a failure, so one is due to the settings or to the files
  · have due := (fails_of_take (comes.timely timely) took).due
    cases t with
    | authorize => exact due.elim
    | validate =>
      obtain ⟨r, asked, rfl⟩ := due
      rw [foreseen, asked]
      rfl
    | credentials mode =>
      have ok := checkedLogins_isOk provided kind
      rw [due] at ok
      cases ok
    | resolveVersion mode =>
      have due : p.requestFrom mode y.session.files = .error e := due
      rw [p.files_of_logins lead moves, requestFrom_congr foretold.properties] at due
      rw [foreseen, due]
      rfl
    | buildWheel request =>
      have built := comes.built undisturbed foretold rfl
      rw [due] at built
      split at built
      · case isTrue long =>
        cases built
        simp only [foreseen, if_pos long]
      · cases built
    | publishImage request =>
      rcases due with unselected | ⟨g, due⟩
      · rw [lead.places] at unselected
        rw [foreseen, foretold.places, unselected]
        rfl
      · have ok := making_isOk (y := ⟨y.session, g⟩) kind (comes.free undisturbed rfl)
        rw [due] at ok
        cases ok
  · have goes := p.goes_of_take took
    generalize z.progress = g at goes
    cases goes with
    | authorized time allowed => simp only [foreseen, if_pos allowed]
    | skipped time barred => simp [foreseen, barred]
    | validated time asked => rw [foreseen, asked]; rfl
    | loggedIn => rfl
    | resolved time hv made =>
      rw [p.files_of_logins lead moves, requestFrom_congr foretold.properties] at made
      rw [foreseen, made]
      rfl
    | built request time detail made =>
      have built := comes.built undisturbed foretold rfl
      rw [made] at built
      split at built
      · cases built
      · case isFalse short => simp only [foreseen, if_neg short]
    | published request time unicode =>
      rw [lead.places, ← foretold.places] at unicode
      rw [foreseen, p.selection_ok unicode]
      rfl

lemma Comes.calls (timely : x.session.Timely) (provided : p.Provided) :
    ∃ new, y.session.Leads p.manner new ((p.take t).run y).2.session ∧
      (movesOf new).filterMap Move.call? = p.callsIn files x.session.interpreter t := by
  have result := comes.result undisturbed foretold timely provided
  obtain ⟨new, lead, along⟩ := p.follows_take t y
  cases t with
  | authorize => exact ⟨new, lead, by rw [along.quiet]; rfl⟩
  | validate => exact ⟨new, lead, by rw [along.quiet]; rfl⟩
  | resolveVersion mode => exact ⟨new, lead, by rw [along.quiet]; rfl⟩
  | credentials mode =>
    refine ⟨new, lead, ?_⟩
    rw [along.whole (by rw [result]; rfl), movesIn, if_pos provided, p.calls_loginMoves]
    rfl
  | publishImage request =>
    by_cases unicode : Text.IsUnicode (p.selection request).tag files.places
    · refine ⟨new, lead, ?_⟩
      rw [along.whole (by rw [result, foreseen, p.selection_ok unicode]; rfl), callsIn,
        if_pos unicode, movesIn, List.filterMap_append, p.calls_lookupMoves, p.buildMove_eq]
      rfl
    · obtain ⟨-, old, lead', -⟩ := comes.moved
      have alone : ¬Text.IsUnicode (p.selection request).tag y.session.files.places := by
        rwa [lead'.places, ← foretold.places]
      obtain ⟨new, lead, along⟩ := follows_publishImage_of_alone alone
      exact ⟨new, lead, by rw [along.quiet, callsIn, if_neg unicode]; rfl⟩
  | buildWheel request =>
    obtain ⟨-, old, lead', moves⟩ := comes.moved
    by_cases long : files.isLong p.distPath = true
    · have reach : y.session.files.isLong p.distPath = true := by
        rw [p.files_of_logins lead' moves, foretold.before, long]
      obtain ⟨new, lead, along⟩ := follows_buildWheel_of_long request reach
      exact ⟨new, lead, by rw [along.quiet, callsIn, if_pos long]; rfl⟩
    · refine ⟨new, lead, ?_⟩
      rw [along.whole (by rw [result, foreseen, if_neg long]; rfl), callsIn, if_neg long, movesIn,
        lead'.interpreter]
      rfl

/-- The turns of a run come to their forecast. -/
lemma Comes.forecast (timely : x.session.Timely) (provided : p.Provided) (n : Nat) :
    ((p.turns n t).run y).1 = (p.forecast files x.session.interpreter n t).1 ∧
      ∃ new, y.session.Leads p.manner new ((p.turns n t).run y).2.session ∧
        (movesOf new).filterMap Move.call? =
          (p.forecast files x.session.interpreter n t).2 := by
  induction n generalizing t y with
  | zero => exact ⟨rfl, [], .nil _, rfl⟩
  | succ n ih =>
    have result := comes.result undisturbed foretold timely provided
    obtain ⟨new, lead, calls⟩ := comes.calls undisturbed foretold timely provided
    unfold turns Publisher.forecast
    rcases took : (p.take t).run y with ⟨e | next, z⟩
    · rw [took] at result lead
      rw [run_bind_of_error took, ← result]
      exact ⟨rfl, new, lead, calls⟩
    · rw [took] at result lead
      rw [run_bind_of_ok took, ← result]
      cases next with
      | finish delivered => exact ⟨rfl, new, lead, calls⟩
      | turn t' =>
        obtain ⟨rest, more, lead', calls'⟩ := ih (.next comes took)
        refine ⟨rest, new ++ more, lead.append lead', ?_⟩
        rw [movesOf_append, List.filterMap_append, calls, calls']

end

/-! ### Whole runs -/

lemma forecast_of_turn {files : FileTree} {interpreter : String} {n : Nat} {t t' : Turn}
    (h : p.foreseen files t = .ok (.turn t')) :
    p.forecast files interpreter (n + 1) t = ((p.forecast files interpreter n t').1,
      p.callsIn files interpreter t ++ (p.forecast files interpreter n t').2) := by
  simp only [forecast, h]

lemma forecast_of_failure {files : FileTree} {interpreter : String} {n : Nat} {t : Turn}
    {e : Failure} (h : p.foreseen files t = .error e) :
    p.forecast files interpreter (n + 1) t = (.error e, p.callsIn files interpreter t) := by
  simp only [forecast, h]

lemma foreseen_authorize
    (allowed : repositoryAllowed p.repository p.settings.allowedRepository = true)
    (files : FileTree) : p.foreseen files .authorize = .ok (.turn .validate) := by
  simp only [foreseen, if_pos allowed]

lemma foreseen_validate {mode : Mode} (asked : Mode.parse p.asked = .ok mode) (files : FileTree) :
    p.foreseen files .validate = .ok (.turn (.credentials mode)) := by
  rw [foreseen, asked]
  rfl

/-- Where there is a request to be made and a directory for the wheels, all that can go wrong is the
selection, and the last call is the build of the image. -/
lemma forecast_of_request {files : FileTree} (interpreter : String) {mode : Mode}
    {request : Request}
    (allowed : repositoryAllowed p.repository p.settings.allowedRepository = true)
    (asked : Mode.parse p.asked = .ok mode) (made : p.requestFrom mode files = .ok request)
    (short : files.isLong p.distPath = false) :
    p.forecast files interpreter 6 .authorize =
      ((request.selection p.settings.image.image files.places).map fun _ => true,
        p.logins ++ [([interpreter, "setup.py", "bdist_wheel"],
          some (p.root.join p.settings.wheelDirectory).text)] ++
            p.callsIn files interpreter (.publishImage request)) := by
  have resolve : p.foreseen files (.resolveVersion mode) = .ok (.turn (.buildWheel request)) := by
    rw [foreseen, made]
    rfl
  have build : p.foreseen files (.buildWheel request) = .ok (.turn (.publishImage request)) := by
    simp [foreseen, short]
  rw [forecast_of_turn (foreseen_authorize allowed _), forecast_of_turn (foreseen_validate asked _),
    forecast_of_turn rfl, forecast_of_turn resolve, forecast_of_turn build]
  cases selected : request.selection p.settings.image.image files.places <;>
    simp [forecast, foreseen, selected, Except.map, callsIn, short]

lemma forecast_of_made {files : FileTree} (interpreter : String) {mode : Mode} {request : Request}
    (allowed : repositoryAllowed p.repository p.settings.allowedRepository = true)
    (asked : Mode.parse p.asked = .ok mode) (made : p.requestFrom mode files = .ok request)
    (short : files.isLong p.distPath = false)
    (unicode : Text.IsUnicode (p.selection request).tag files.places) :
    p.forecast files interpreter 6 .authorize =
      (.ok true, p.logins ++ [([interpreter, "setup.py", "bdist_wheel"],
        some (p.root.join p.settings.wheelDirectory).text)] ++
          [(p.imageCommand request, none)]) := by
  rw [forecast_of_request _ allowed asked made short, p.selection_ok unicode, callsIn,
    if_pos unicode]
  rfl

/-- Where a surrogate stands alone in the tag, nothing is left but the logins and the wheels. -/
lemma forecast_of_alone {files : FileTree} (interpreter : String) {mode : Mode} {request : Request}
    (allowed : repositoryAllowed p.repository p.settings.allowedRepository = true)
    (asked : Mode.parse p.asked = .ok mode) (made : p.requestFrom mode files = .ok request)
    (short : files.isLong p.distPath = false)
    (alone : ¬Text.IsUnicode (p.selection request).tag files.places) :
    p.forecast files interpreter 6 .authorize =
      (.error (p.selection request).unwritable, p.logins ++ [([interpreter, "setup.py",
        "bdist_wheel"], some (p.root.join p.settings.wheelDirectory).text)]) := by
  rw [forecast_of_request _ allowed asked made short, p.selection_alone alone, callsIn,
    if_neg alone, List.append_nil]
  rfl

/-- A run comes to the forecast of files that tell it beforehand. -/
theorem run_forecast {files : FileTree} (timely : x.session.Timely) (provided : p.Provided)
    (undisturbed : p.dryRun = false → p.Undisturbed x.session)
    (foretold : p.Foretells files x.session) :
    (∀ e, (p.run.run x).1 = .error e ↔
        (p.forecast files x.session.interpreter 6 .authorize).1 = .error e) ∧
      (movesOf (p.trace x)).filterMap Move.call? =
        (p.forecast files x.session.interpreter 6 .authorize).2 := by
  obtain ⟨heading, lead, along⟩ := follows_banner (m := p.manner) p.heading x
  -- neither the heading nor the closing of a run moves anything, so the turns make all its calls
  have undisturbed : p.dryRun = false → p.Undisturbed (p.opened x).session := fun real =>
    ⟨(undisturbed real).tools, (undisturbed real).properties, (undisturbed real).wheels,
      (undisturbed real).free⟩
  have foretold : p.Foretells files (p.opened x).session :=
    ⟨foretold.places, foretold.properties, foretold.before, foretold.after⟩
  have timely := p.timely_opened timely
  obtain ⟨result, new, lead', calls⟩ :=
    Comes.forecast undisturbed foretold .start timely provided 6
  have interpreter : (p.opened x).session.interpreter = x.session.interpreter := rfl
  rw [interpreter] at result calls
  rw [← stages_eq_turns] at result lead'
  rcases hs : p.stages.run (p.opened x) with ⟨e | delivered, z⟩
  · rw [hs] at result lead'
    have run := p.run_of_stages_error hs
    have ended : x.session.Leads p.manner (heading ++ new) (p.run.run x).2.session := by
      rw [run]
      exact lead.append lead'
    rw [p.trace_eq ended, movesOf_append, along.quiet, List.nil_append, run, ← result]
    refine ⟨fun _ => ?_, calls⟩
    rw [Except.error.injEq, Except.error.injEq]
  · rw [hs] at result lead'
    have run := p.run_of_stages_ok hs
    obtain ⟨closing, lead'', along'⟩ := p.follows_closing (p.opened x).session.clock delivered z
    have ok := p.closing_sure timely (mayShow_clock _) (lead'.mayShow (mayShow_clock _)) delivered
    rw [← run] at lead'' along' ok
    rw [p.trace_eq ((lead.append lead').append lead''), movesOf_append, movesOf_append,
      along.quiet, along'.quiet, List.nil_append, List.append_nil, ← result]
    refine ⟨fun e => ⟨fun h => ?_, nofun⟩, calls⟩
    rw [h] at ok
    cases ok

variable (p) in
/-- What a run is to come to in a session, and the calls that it is to make. -/
def prospect (s : Session) : Except Failure Bool × List (List String × Option String) :=
  p.forecast s.files s.interpreter 6 .authorize

lemma run_prospect (timely : x.session.Timely) (provided : p.Provided)
    (smooth : p.dryRun = false → p.Smooth x.session) :
    (∀ e, (p.run.run x).1 = .error e ↔ (p.prospect x.session).1 = .error e) ∧
      (movesOf (p.trace x)).filterMap Move.call? = (p.prospect x.session).2 :=
  run_forecast timely provided (fun real => (smooth real).toUndisturbed)
    (foretells_of_smooth smooth)

lemma allowed_of_delivered {r : JobResult} (h : (p.run.run x).1 = .ok r)
    (delivered : r.state = .delivered) :
    repositoryAllowed p.repository p.settings.allowedRepository = true := by
  rcases hx : p.run.run x with ⟨_, z⟩
  rw [hx] at h
  cases h
  rcases p.run_ok hx with ⟨-, admitted, -⟩ | ⟨skipped, -⟩
  · exact admitted.1
  · cases skipped.symm.trans delivered

/-- A run delivers only where the directory of wheels can be looked up once the logins are made. -/
lemma reach_of_delivered {r : JobResult} (h : (p.run.run x).1 = .ok r)
    (delivered : r.state = .delivered) : (p.filesRead x.session).isLong p.distPath = false := by
  have ends := stages_end (p := p) (p.opened x)
  generalize hs : p.stages.run (p.opened x) = ended at ends
  cases ends with
  | failed comes took =>
    rw [p.run_of_stages_error hs] at h
    cases h
  | @finished t y z _ comes took =>
    rcases hx : p.run.run x with ⟨_, u⟩
    rw [hx] at h
    cases h
    rw [p.run_of_stages_ok hs] at hx
    obtain ⟨-, rfl⟩ := p.closing_ok hx
    have state : z.progress.state = .delivered := delivered
    have goes := p.goes_of_take took
    generalize z.progress = g at goes state
    cases goes with
    | skipped => cases state
    | published request =>
      -- the turn before has built the wheels, so it has looked their directory up
      cases comes with
      | @next t _ w _ comes took =>
        have goes := p.goes_of_take took
        generalize y.progress = g at goes
        cases goes with
        | built request _ _ made =>
          obtain ⟨-, new, lead, moves⟩ := comes.moved
          have read : p.filesRead (p.opened x).session = p.filesRead x.session := rfl
          rw [← read, ← p.files_of_logins lead moves,
            ← p.dist_wheelBuilder w.session.interpreter]
          by_contra long
          rw [WheelBuilder.build_of_long _ (Bool.not_eq_false _ ▸ long)] at made
          cases made

lemma fails_of_long (allowed : repositoryAllowed p.repository p.settings.allowedRepository = true)
    (long : (p.filesRead x.session).isLong p.distPath = true) : (p.run.run x).1.isOk = false := by
  rcases h : p.run.run x with ⟨e | r, z⟩
  · rfl
  · rcases p.run_ok h with ⟨delivered, -⟩ | ⟨-, barred⟩
    · cases long.symm.trans (reach_of_delivered (congrArg Prod.fst h) delivered)
    · cases allowed.symm.trans barred

end Publisher

/-- Results that tell the same, but for whether the run was dry and for what it took and made. -/
structure JobResult.Alike (r r' : JobResult) : Prop where
  state : r.state = r'.state
  mode : r.mode = r'.mode
  version : r.version = r'.version
  imageTag : r.imageTag = r'.imageTag
  warnings : r.warnings = r'.warnings
  marks : r.timings.map StageTiming.mark = r'.timings.map StageTiming.mark

/-- The commands that were handed over, started or only shown. -/
def shapesOf (new : List Event) : List (List String × Option String) :=
  (new.filterMap Event.command?).map Command.shape

lemma shapesOf_eq (new : List Event) : shapesOf new = (movesOf new).filterMap Move.call? := by
  unfold shapesOf movesOf
  rw [List.map_filterMap, List.filterMap_filterMap]
  congr 1
  funext e
  cases e <;> rfl

namespace Publisher

variable (p : Publisher)

def rehearsal : Publisher :=
  { p with dryRun := true }

def earnest : Publisher :=
  { p with dryRun := false }

variable {p} {x : Publishing}

lemma requestIn_rehearsal {s : Session} (smooth : p.earnest.Smooth s) :
    p.rehearsal.requestIn s = p.earnest.requestIn s := by
  have asked : p.rehearsal.asked = p.earnest.asked := rfl
  unfold requestIn
  rw [asked]
  cases Mode.parse p.earnest.asked with
  | error r => rfl
  | ok mode => exact (requestFrom_congr (p := p.earnest) smooth.properties).symm

lemma warnedIn_rehearsal {s : Session} (smooth : p.earnest.Smooth s) :
    p.rehearsal.warnedIn s = p.earnest.warnedIn s := by
  have same (mode : Mode) : p.rehearsal.versionFrom mode (p.rehearsal.filesRead s) =
      p.earnest.versionFrom mode (p.earnest.filesRead s) :=
    (versionFrom_congr (p := p.earnest) smooth.properties).symm
  unfold warnedIn
  simp only [same]
  rfl

lemma prospect_rehearsal (s : Session) : p.rehearsal.prospect s = p.earnest.prospect s := by
  have dry : p.rehearsal.prospect s = p.prospect s := p.forecast_dryRun true _ _ _ _
  have real : p.earnest.prospect s = p.prospect s := p.forecast_dryRun false _ _ _ _
  rw [dry, real]

lemma Skipped.alike {g g' : Progress} (h : p.rehearsal.Skipped x g) (h' : p.earnest.Skipped x g') :
    (p.rehearsal.result g).Alike (p.earnest.result g') := by
  obtain ⟨-, time, rfl⟩ := h
  obtain ⟨-, time', rfl⟩ := h'
  refine ⟨rfl, rfl, rfl, rfl, rfl, ?_⟩
  simp [result, Progress.timed, StageTiming.mark]

lemma Delivered.alike {g g' : Progress} (smooth : p.earnest.Smooth x.session)
    (h : p.rehearsal.Delivered x g) (h' : p.earnest.Delivered x g') :
    (p.rehearsal.result g).Alike (p.earnest.result g') := by
  obtain ⟨⟨mode, asked, hm⟩, ⟨request, made, hr, hs⟩, state, warnings, new, timings, marks⟩ := h
  obtain ⟨⟨mode', asked', hm'⟩, ⟨request', made', hr', hs'⟩, state', warnings', new', timings',
    marks'⟩ := h'
  obtain rfl : mode = mode' := Except.ok.inj (asked.symm.trans asked')
  rw [requestIn_rehearsal smooth] at made
  obtain rfl : request = request' := Except.ok.inj (made.symm.trans made')
  rw [warnedIn_rehearsal smooth] at warnings
  exact
    { state := by simp only [result, state, state']
      mode := by simp only [result, hm, hm']
      version := by simp only [result, hr, hr']
      imageTag := by simp only [result, hs, hs', Option.map_some]; rfl
      warnings := by simp only [result, warnings, warnings']
      marks := by simp only [result, timings, timings', List.map_append, marks, marks'] }

lemma results_alike (timely : x.session.Timely) (smooth : p.earnest.Smooth x.session)
    {r r' : JobResult} (dry : (p.rehearsal.run.run x).1 = .ok r)
    (real : (p.earnest.run.run x).1 = .ok r') : r.Alike r' := by
  have outcome := p.rehearsal.run_outcome timely
  have outcome' := p.earnest.run_outcome timely
  generalize (p.rehearsal.run.run x).2.progress = g at outcome
  generalize (p.earnest.run.run x).2.progress = g' at outcome'
  rw [dry] at outcome
  rw [real] at outcome'
  cases outcome with
  | skipped h =>
    cases outcome' with
    | skipped h' => exact h.alike h'
    | delivered h' =>
      have allowed := allowed_of_delivered real h'.state
      cases h.barred.symm.trans allowed
  | delivered h =>
    cases outcome' with
    | skipped h' =>
      have allowed := allowed_of_delivered dry h.state
      cases h'.barred.symm.trans allowed
    | delivered h' => exact h.alike smooth h'

variable (p)

/-- **The dry run as a rehearsal**: a dry run hands over the commands that the real run calls, in
every world in which nothing comes in between. If it comes to a result, then so does the real run,
and the results are alike; if it fails, then so does the real run, in the same way. -/
theorem rehearsal_comes_true (x : Publishing) (timely : x.session.Timely)
    (provided : p.settings.missingCredentials = []) (smooth : p.earnest.Smooth x.session) :
    shapesOf (p.rehearsal.trace x) = (callsOf (p.earnest.trace x)).map (·.1.shape) ∧
      (∀ r, (p.rehearsal.run.run x).1 = .ok r →
        ∃ r', (p.earnest.run.run x).1 = .ok r' ∧ r.Alike r') ∧
      ∀ e, (p.rehearsal.run.run x).1 = .error e → (p.earnest.run.run x).1 = .error e := by
  obtain ⟨failures, calls⟩ := run_prospect (p := p.rehearsal) timely (.inl rfl) nofun
  obtain ⟨failures', calls'⟩ := run_prospect (p := p.earnest) timely (.inr provided) fun _ => smooth
  obtain ⟨new, lead, -⟩ := p.earnest.follows_run x
  rw [prospect_rehearsal] at failures calls
  refine ⟨?_, fun r dry => ?_, fun e dry => (failures' e).mpr ((failures e).mp dry)⟩
  · rw [shapesOf_eq, calls, ← calls', p.earnest.trace_eq lead, lead.shapes rfl]
  · cases real : (p.earnest.run.run x).1 with
    | ok r' => exact ⟨r', rfl, results_alike timely smooth dry real⟩
    | error e => cases dry.symm.trans ((failures e).mpr ((failures' e).mp real))

/-- A session in which a login answers with a token, and the build of the wheels leaves one. -/
def furnished : Session :=
  { Session.still [] (.response {}) with
    script := [{}, { ending := .exited 0 "tok\n" "" }, {}, {},
      { changes := [("extensions/spark/setup/dist/djl.whl", .write [80, 75])] }] }

/-- A release in which the tools do their work and the tag is free. -/
theorem rehearsal_comes_true_usual :
    furnished.Timely ∧ (usual "Zq8" "Qx9" ["1"]).settings.missingCredentials = [] ∧
      (usual "Zq8" "Qx9" ["1"]).earnest.Smooth furnished ∧
      shapesOf ((usual "Zq8" "Qx9" ["1"]).rehearsal.trace ⟨furnished, {}⟩) =
        (callsOf ((usual "Zq8" "Qx9" ["1"]).earnest.trace ⟨furnished, {}⟩)).map (·.1.shape) := by
  have timely : furnished.Timely := by
    refine timely_of_still rfl rfl ?_
    simp [furnished]
  have provided : (usual "Zq8" "Qx9" ["1"]).settings.missingCredentials = [] := by decide +kernel
  have smooth : (usual "Zq8" "Qx9" ["1"]).earnest.Smooth furnished := by
    have made : (usual "Zq8" "Qx9" ["1"]).earnest.requestIn furnished =
        .ok ⟨.release, "0.25.0", true⟩ := rfl
    refine ⟨⟨by decide +kernel, by rfl, by decide +kernel, fun request asked _ => ?_⟩,
      by decide +kernel⟩
    rw [← Except.ok.inj (made.symm.trans asked)]
    exact ⟨{}, [], rfl, rfl⟩
  exact ⟨timely, provided, smooth,
    (rehearsal_comes_true (usual "Zq8" "Qx9" ["1"]) ⟨furnished, {}⟩ timely provided smooth).1⟩

/-! ### A directory out of reach -/

end Publisher

lemma Path.parse_below {l : List Char} (whole : Text.fields '/' l = [l])
    (leads : (String.ofList l != "" && String.ofList l != ".") = true) :
    parse ("sub/" ++ String.ofList l) = ⟨.here, ["sub", String.ofList l]⟩ := by
  have sub : String.ofList ['s', 'u', 'b'] = "sub" := rfl
  unfold parse anchorOf namesOf
  rw [String.toList_append, String.toList_ofList]
  simp [Text.fields, whole, sub]
  simpa using leads

lemma FileTree.isLong_below {t : FileTree} {l : List Char}
    (long : nameLimit < Text.systemSize (String.ofList l) t.places)
    (given : Text.isForSystem (String.ofList l) t.places = true)
    (short : Text.systemSize (⟨.here, ["sub", String.ofList l, "dist"]⟩ : Path).text t.places ≤
      pathLimit) :
    t.isLong ⟨.here, ["sub", String.ofList l, "dist"]⟩ = t.leadsOn (.inside ["sub"]) := by
  have sub : ¬nameLimit < Text.systemSize "sub" t.places := by
    rw [Text.systemSize_of_common (by decide)]
    decide
  have others : Text.isForSystem "sub" t.places = true ∧ Text.isForSystem "dist" t.places = true :=
    ⟨Text.isForSystem_of_common (by decide) (by decide),
      Text.isForSystem_of_common (by decide) (by decide)⟩
  have here : t.leadsOn (.inside []) = true := by simp [leadsOn, at?]
  simp [isLong, meetsLongName, next?, long, given, others, here, sub, short.not_gt]

namespace Publisher

/-- A nightly publisher whose directory of wheels has a name that is too long. -/
def longNamed : Publisher :=
  { usual "Zq8" "Qx9" ["1"] with
    asked := .mode .nightly
    settings := { Settings.usual "Zq8" "Qx9" ["1"] with
      wheelDirectory := "sub/" ++ String.ofList (List.replicate 256 'a') } }

/-- A session whose first tool makes a directory on the way to the wheels. -/
def openingUp : Session :=
  { Session.still [] (.response {}) with script := [{ changes := [("sub/x", .write [])] }] }

lemma distPath_longNamed : longNamed.distPath =
    ⟨.here, ["sub", String.ofList (List.replicate 256 'a'), "dist"]⟩ := by
  have parsed := Path.parse_below (l := List.replicate 256 'a') (by decide +kernel)
    (by decide +kernel)
  have anchor : (Path.parse ("sub/" ++ String.ofList (List.replicate 256 'a'))).anchor = .here := by
    rw [parsed]
  have directory : longNamed.settings.wheelDirectory =
      "sub/" ++ String.ofList (List.replicate 256 'a') := rfl
  have first := Path.join_eq_of_here (p := longNamed.root) anchor
  rw [distPath, directory, first, parsed]
  rfl

lemma isLong_longNamed (t : FileTree) :
    t.isLong longNamed.distPath = t.leadsOn (.inside ["sub"]) := by
  rw [distPath_longNamed]
  refine FileTree.isLong_below ?_
      (Text.isForSystem_of_common (by decide +kernel) (by decide +kernel)) ?_ <;>
    · rw [Text.systemSize_of_common (by decide +kernel)]
      decide +kernel

/-- Before a tool makes the directory, the path below it is merely missing; then its name is found
to be too long. The dry run makes no directory and so it delivers, and the real run fails. -/
theorem rehearsal_comes_true_out_of_reach :
    openingUp.Timely ∧ longNamed.settings.missingCredentials = [] ∧
      longNamed.earnest.Undisturbed openingUp ∧
      (longNamed.rehearsal.run.run ⟨openingUp, {}⟩).1.isOk = true ∧
      (longNamed.earnest.run.run ⟨openingUp, {}⟩).1.isOk = false := by
  have timely : openingUp.Timely := by
    refine timely_of_still rfl rfl fun o ho => ?_
    rw [List.mem_singleton.mp ho]
  have allowed :
      repositoryAllowed longNamed.repository longNamed.settings.allowedRepository = true := by
    decide +kernel
  refine ⟨timely, by decide +kernel, ⟨?_, ?_, ?_, ?_⟩, ?_, ?_⟩
  · intro o ho
    rw [List.mem_singleton.mp ho]
    rfl
  · rfl
  · have none : (longNamed.earnest.wheelBuilder openingUp.interpreter).wheelNames
        (openingUp.filesAfter (longNamed.earnest.loginMoves.length + 1)) = [] := by
      have path : longNamed.earnest.distPath = longNamed.distPath := rfl
      rw [WheelBuilder.wheelNames, dist_wheelBuilder, path, distPath_longNamed]
      decide +kernel
    rw [none]
    exact fun _ new => (List.not_mem_nil (List.mem_mergeSort.mp new)).elim
  · intro request asked guards
    have made : longNamed.earnest.requestIn openingUp = .ok ⟨.nightly, "0.25.0", true⟩ := rfl
    rw [← Except.ok.inj (made.symm.trans asked)] at guards
    cases guards.1
  · have prospect : (longNamed.rehearsal.prospect openingUp).1 = .ok true := by
      have made : longNamed.rehearsal.requestFrom .nightly openingUp.files =
          .ok ⟨.nightly, "0.25.0", true⟩ := rfl
      have short : openingUp.files.isLong longNamed.rehearsal.distPath = false := by
        have path : longNamed.rehearsal.distPath = longNamed.distPath := rfl
        rw [path, isLong_longNamed]
        decide +kernel
      rw [prospect, forecast_of_made (p := longNamed.rehearsal) _ allowed rfl made short
        (by decide)]
    obtain ⟨failures, -⟩ := run_prospect (p := longNamed.rehearsal) (x := ⟨openingUp, {}⟩) timely
      (.inl rfl) nofun
    cases h : (longNamed.rehearsal.run.run ⟨openingUp, {}⟩).1 with
    | ok r => rfl
    | error e => cases prospect.symm.trans ((failures e).mp h)
  · refine fails_of_long allowed ?_
    have path : longNamed.earnest.distPath = longNamed.distPath := rfl
    rw [path, isLong_longNamed]
    decide +kernel

end Publisher

end ImageRelease
