import ImageRelease.Proofs.Release.TurnFailures
import ImageRelease.Proofs.Session.Brackets

/-!
The step log of a run.

Five external steps are taken in a release, in four of its stages; all else that a run puts into the
log is about other things. So the lines about steps come in pairs, one pair for each step that was
taken: `step_log` says so of every run in every world, and that a step which a failure left is the
last one and fails the run.
-/

namespace ImageRelease

open Session Act

/-! ### Stages that tell nothing of steps -/

lemma silent_inSession {α : Type} {x : Act Session α} (h : x.Silent id) :
    (inSession x).Silent Publishing.session :=
  fun y => h y.session

lemma silent_update (f : Progress → Progress) : (update f).Silent Publishing.session :=
  silent_of_still fun _ => rfl

lemma silent_enter (state : JobState) : (enter state).Silent Publishing.session :=
  silent_update _

lemma silent_now : now.Silent Publishing.session :=
  silent_of_still fun _ => rfl

lemma silent_recordStage (stage : Stage) (start : Float) (status : StageStatus)
    (detail : String) : (recordStage stage start status detail).Silent Publishing.session := by
  refine silent_now.bind fun now => (silent_ofExcept _).bind fun time => ?_
  refine (silent_update _).bind fun _ => silent_inSession (silent_log .info ?_)
  simp only [String.append_assoc]
  exact opensPlain_indented _

lemma silent_recordingFailure {α : Type} (stage : Stage) (start : Float)
    {body : Act Publishing α} (h : body.Silent Publishing.session) :
    (recordingFailure stage start body).Silent Publishing.session :=
  h.onFailure fun _ => silent_recordStage _ _ _ _

lemma silent_banner {text : String} (h : OpensPlain text) :
    (Publisher.banner text).Silent Publishing.session := by
  have plain : OpensPlain rule := by decide
  exact (silent_inSession (silent_log _ plain)).bind fun _ =>
    (silent_inSession (silent_log _ h)).bind fun _ => silent_inSession (silent_log _ plain)

namespace Publisher

variable (p : Publisher)

/-- The external steps of a release. -/
inductive External : ExternalStep → Prop
  | builder : External
      { name := "Setup Docker buildx"
        body := do let _ ← p.runner.run ["docker", "buildx", "create", "--use"] }
  | registries : External
      { name := "Login to Amazon ECR"
        body := Ecr.loginEach p.runner p.settings.aws p.settings.aws.registries }
  | hub : External
      { name := "Login to Docker Hub"
        body := do
          addSecret p.settings.dockerHub.password
          let _ ← p.runner.run
            ["docker", "login", "--username", p.settings.dockerHub.username, "--password-stdin"]
            none [] (some p.settings.dockerHub.password) }
  | wheels (interpreter : String) : External
      { name := "Build wheel"
        body := do
          let _ ← p.runner.run [interpreter, "setup.py", "bdist_wheel"]
            (some (p.root.join p.settings.wheelDirectory).text) }
  | image (request : Request) : External
      { name := (if request.push then "Build and push " else "Build ") ++ (p.selection request).tag
        body := do
          let result ← p.runner.run
            (p.docker.buildCommand (p.buildSpec request (p.selection request)))
          info ("  Image " ++ (if request.push then "pushed" else "built") ++ ": " ++
            (p.selection request).tag)
          return result }

lemma silent_authorize : p.authorize.Silent Publishing.session := by
  refine silent_now.bind fun start => ?_
  dsimp only
  split
  · exact (silent_enter _).bind fun _ => (silent_recordStage _ _ _ _).bind fun _ => silent_pure _
  · exact (silent_enter _).bind fun _ => (silent_update _).bind fun _ =>
      (silent_recordStage _ _ _ _).bind fun _ => silent_pure _

lemma silent_validate : p.validate.Silent Publishing.session := by
  refine silent_now.bind fun start => Silent.bind (silent_recordingFailure _ _ ?_) fun mode => ?_
  · exact (silent_ofRejection _).bind fun mode => (silent_update _).bind fun _ => silent_pure _
  · exact (silent_recordStage _ _ _ _).bind fun _ => silent_pure _

lemma silent_lookUpVersion (mode : Mode) (start : Float) :
    (p.lookUpVersion mode start).Silent Publishing.session := by
  refine silent_state.bind fun y => ?_
  split
  · exact silent_pure _
  · split
    · exact (silent_recordStage _ _ _ _).bind fun _ => silent_fail _
    · exact silent_pure _
  · exact silent_fail _

lemma silent_resolveVersion (mode : Mode) :
    (p.resolveVersion mode).Silent Publishing.session := by
  refine silent_now.bind fun start => (p.silent_lookUpVersion mode start).bind fun version => ?_
  have resolving : (resolving mode version start).Silent Publishing.session :=
    (silent_ofRejection _).bind fun _ => (silent_update _).bind fun _ =>
      (silent_enter _).bind fun _ => (silent_recordStage _ _ _ _).bind fun _ => silent_pure _
  split
  · split
    · exact (silent_recordStage _ _ _ _).bind fun _ => (silent_fail _).bind fun _ => resolving
    · exact (silent_update _).bind fun _ => resolving
  · exact resolving

lemma silent_checkUnreleased (s : Selection) : (p.checkUnreleased s).Silent id := by
  have plain : OpensPlain "  DRY RUN: would check " := by decide
  unfold checkUnreleased
  split
  · exact silent_log _ ((plain.append _).append _)
  · refine (silent_ofExcept _).bind fun reference => ?_
    refine (Hub.silent_exists? _ _ _).bind fun known => ?_
    cases known
    · exact silent_pure _
    · exact silent_fail _

lemma silent_closing (start : Float) (delivered : Bool) :
    (p.closing start delivered).Silent Publishing.session := by
  have plain : OpensPlain "[" := by decide
  unfold closing
  split
  · refine silent_now.bind fun now => (silent_ofExcept _).bind fun time => ?_
    refine silent_state.bind fun y => ?_
    refine Silent.bind (silent_banner ?_) fun _ => silent_state.bind fun _ => silent_pure _
    simp only [String.append_assoc]
    exact plain.append _
  · exact silent_state.bind fun _ => silent_pure _

lemma opensPlain_heading : OpensPlain p.heading := by
  have plain : OpensPlain "[" := by decide
  unfold heading
  simp only [String.append_assoc]
  exact plain.append _

/-! ### The external steps -/

lemma logs_setupBuildx (s : Session) : p.docker.setupBuildx.Logs p.manner p.External id s :=
  logs_timed .builder
    ((p.runner.silent_run (List.cons_ne_nil _ _) _ _ _).bind fun _ => silent_pure ())
    (p.docker.follows_setupBuildx p.settings.aws s)

lemma logs_registries (s : Session) :
    (Ecr.login p.runner p.settings.aws p.settings.aws.registries).Logs p.manner p.External id s :=
  logs_timed .registries (Ecr.silent_loginEach _ _ _) (Ecr.follows_login _ _ _ s)

lemma logs_hub (s : Session) :
    (p.docker.login p.settings.dockerHub.username p.settings.dockerHub.password).Logs
      p.manner p.External id s :=
  logs_timed .hub
    ((silent_addSecret _).bind fun _ =>
      (p.runner.silent_run (List.cons_ne_nil _ _) _ _ _).bind fun _ => silent_pure ())
    (p.docker.follows_login p.settings.aws _ _ s)

lemma logs_tool (interpreter : String) (s : Session) :
    (p.wheelBuilder interpreter).tool.Logs p.manner p.External id s := by
  have follows := follows_timed "Build wheel" ((p.runner.follows_run p.settings.aws
    (List.cons_ne_nil interpreter ["setup.py", "bdist_wheel"])
    (some (p.root.join p.settings.wheelDirectory).text) (.inl rfl)).before fun _ => follows_pure ())
  exact logs_timed (.wheels interpreter)
    ((p.runner.silent_run (List.cons_ne_nil _ _) _ _ _).bind fun _ => silent_pure ()) (follows s)

lemma logs_image (request : Request) (s : Session) :
    (p.docker.build (p.buildSpec request (p.selection request))).Logs p.manner p.External id s := by
  have silent : OpensPlain ("  Image " ++ (if request.push then "pushed" else "built") ++ ": " ++
      (p.selection request).tag) := by
    have plain : OpensPlain "  Image " := by decide
    exact ((plain.append _).append _).append _
  exact logs_timed (.image request)
    ((p.runner.silent_run (p.docker.buildCommand_ne_nil _) _ _ _).bind fun _ =>
      (silent_log _ silent).bind fun _ => silent_pure _)
    (p.docker.follows_build p.settings.aws _ s)

lemma logs_inSession {α : Type} {m : Manner} {K : ExternalStep → Prop} {x : Act Session α}
    {y : Publishing} (h : x.Logs m K id y.session) : (inSession x).Logs m K Publishing.session y :=
  h

/-- A stage logs well where its body does; what it records of itself tells nothing of steps. -/
lemma logs_staged {α : Type} {m : Manner} {K : ExternalStep → Prop} {stage : Stage}
    {state : JobState} {body : Act Publishing α} {detail : α → String} {y : Publishing}
    (h : body.Logs m K Publishing.session y) :
    (staged stage y.session.clock state body detail).Logs m K Publishing.session y := by
  have recorded : (recordingFailure stage y.session.clock body).Logs m K Publishing.session y :=
    h.onFailure (fun _ => follows_recordStage _ _ _ _) (fun _ => silent_recordStage _ _ _ _)
      fun timely e t later => recordStage_isOk timely later .failed e.message
  refine recorded.bind fun a t _ => ?_
  exact ((silent_enter _).bind fun _ => silent_recordStage _ _ _ _).logs
    (((follows_enter _).after fun _ => follows_recordStage _ _ _ _) t)

lemma logs_checkedLogins (y : Publishing) :
    p.checkedLogins.Logs p.manner p.External Publishing.session y := by
  have logins (y : Publishing) : p.loggingIn.Logs p.manner p.External Publishing.session y := by
    refine (logs_inSession (p.logs_setupBuildx _)).bind fun _ t _ => ?_
    refine (logs_inSession (p.logs_registries _)).bind fun hosts u _ => ?_
    refine (logs_inSession (p.logs_hub _)).bind fun _ v _ => ?_
    exact (silent_pure hosts).logs (follows_pure hosts v)
  unfold checkedLogins
  split
  · exact ((silent_ofRejection _).logs (follows_ofRejection _ y)).bind fun _ t _ => logins t
  · exact logins y

lemma logs_credentials (y : Publishing) :
    p.credentials.Logs p.manner p.External Publishing.session y := by
  rw [credentials_eq]
  refine (silent_now.logs (follows_now y)).bind fun start t started => ?_
  cases started
  exact logs_staged (p.logs_checkedLogins y)

lemma logs_makingWheels (interpreter : String) (y : Publishing) :
    (p.makingWheels interpreter).Logs p.manner p.External Publishing.session y := by
  let w := p.wheelBuilder interpreter
  have built (s : Session) : w.build.Logs p.manner p.External id s := by
    refine (silent_state.logs (follows_state s)).bind fun _ t found => ?_
    cases found
    refine ((WheelBuilder.silent_wheelsIn _).logs (WheelBuilder.follows_wheelsIn _ s)).bind
      fun before t _ => (p.logs_tool interpreter t).bind fun _ u _ => ?_
    split
    · exact (silent_pure _).logs (follows_pure _ u)
    · exact ((WheelBuilder.silent_wheelsIn _).bind fun after =>
        WheelBuilder.silent_inspectEach _ _).logs
          (((WheelBuilder.follows_wheelsIn _).after fun after =>
            WheelBuilder.follows_inspectEach _ _) u)
  refine (logs_inSession (built y.session)).bind fun artifacts t _ => ?_
  exact ((silent_update _).bind fun _ => silent_pure _).logs
    (((follows_update _).after fun _ => follows_pure _) t)

lemma logs_buildWheel (y : Publishing) :
    p.buildWheel.Logs p.manner p.External Publishing.session y := by
  rw [buildWheel_eq]
  refine (silent_now.logs (follows_now y)).bind fun start t started => ?_
  cases started
  refine (silent_state.logs (follows_state y)).bind fun z t found => ?_
  cases found
  exact logs_staged (p.logs_makingWheels y.session.interpreter y)

lemma logs_making (request : Request) (y : Publishing) :
    (p.making request).Logs p.manner p.External Publishing.session y := by
  have building (z : Publishing) : (do
      let _ ← inSession (p.docker.build (p.buildSpec request (p.selection request)))
      : Act Publishing Unit).Logs p.manner p.External Publishing.session z :=
    (logs_inSession (p.logs_image request _)).bind fun _ t _ =>
      (silent_pure ()).logs (follows_pure () t)
  unfold making
  split
  · exact ((silent_inSession (p.silent_checkUnreleased _)).logs
      (follows_inSession (p.follows_checkUnreleased request) y)).bind fun _ t _ => building t
  · exact building y

lemma silent_selecting (request : Request) : (p.selecting request).Silent Publishing.session :=
  silent_state.bind fun _ => silent_ofExcept _

lemma logs_publishImage (request : Request) (y : Publishing) :
    (p.publishImage request).Logs p.manner p.External Publishing.session y := by
  rw [publishImage_eq]
  refine (silent_now.logs (follows_now y)).bind fun start t started => ?_
  cases started
  refine ((p.silent_selecting request).logs (p.follows_selecting request y)).bind
    fun _ t selected => ?_
  rw [run_selecting] at selected
  obtain ⟨-, rfl⟩ := Prod.mk.inj selected
  refine ((silent_update _).logs (follows_update _ y)).bind fun _ t updated => ?_
  cases updated
  exact logs_staged (p.logs_making request _)

lemma logs_stages (y : Publishing) : p.stages.Logs p.manner p.External Publishing.session y := by
  refine (p.silent_authorize.logs (p.follows_authorize y)).bind fun allowed t _ => ?_
  cases allowed with
  | false => exact (silent_pure false).logs (follows_pure false t)
  | true =>
    refine (p.silent_validate.logs (p.follows_validate t)).bind fun mode u _ => ?_
    refine (p.logs_credentials u).bind fun _ v _ => ?_
    refine ((p.silent_resolveVersion mode).logs (p.follows_resolveVersion mode v)).bind
      fun request w _ => ?_
    refine (p.logs_buildWheel w).bind fun _ y _ => ?_
    refine (p.logs_publishImage request y).bind fun _ z _ => ?_
    exact ((silent_enter _).bind fun _ => silent_pure true).logs
      (((follows_enter _).after fun _ => follows_pure true) z)

lemma logs_run (x : Publishing) : p.run.Logs p.manner p.External Publishing.session x := by
  rw [run_eq]
  refine ((silent_banner p.opensPlain_heading).logs (follows_banner _ x)).bind fun _ y _ => ?_
  refine (silent_now.logs (follows_now y)).bind fun start t started => ?_
  cases started
  have stages := (p.logs_stages y).onFailure (fun _ => follows_enter .failed)
    (fun _ => silent_enter .failed) fun _ _ _ _ => rfl
  exact stages.bind fun delivered z _ =>
    (p.silent_closing _ delivered).logs (p.follows_closing _ delivered z)

/-- **The step log**: the lines about external steps that a run leaves are those of brackets that
lie on its way, one bracket after another, each with the line that opens a step and then the one
that closes it. A line with the sign of a failure is the last of them, and a failure has left the
body of its step. Whatever failure leaves the body of a step, its line has that sign, and the run
fails: with that failure, where the clock is sound. -/
theorem step_log (x : Publishing) : ∃ steps : List Bracket,
    stepLinesOf (p.trace x) =
      steps.flatMap (fun b => [(.info, "▶ " ++ b.step.name ++ " — started"), b.closing]) ∧
    (∀ b ∈ steps, p.External b.step ∧
      b.Within p.manner x.session (p.trace x) (p.run.run x).2.session) ∧
    (∀ before line after, stepLinesOf (p.trace x) = before ++ line :: after →
      ['✗', ' '] <+: line.2.toList →
        after = [] ∧ ∃ b, steps.getLast? = some b ∧ line = b.closing ∧ b.left.isSome = true) ∧
    ∀ b ∈ steps, ∀ e, b.left = some e → ['✗', ' '] <+: b.closing.2.toList ∧
      ∃ failure, (p.run.run x).1 = .error failure ∧ (x.session.Timely → failure = e) := by
  obtain ⟨new, steps, lead, bracketed⟩ := p.logs_run x
  rw [p.trace_eq lead]
  refine ⟨steps, bracketed.lines, fun b hb => ⟨bracketed.known b hb, bracketed.within b hb⟩, ?_, ?_⟩
  · intro before line after parts sign
    rw [bracketed.lines] at parts
    exact Bracketed.failSign_last bracketed.last parts sign
  · intro b hb e left
    exact ⟨b.failSign_closing.mpr (by rw [left]; rfl), bracketed.stopped b hb e left⟩

/-- A release whose token is denied: the login to the registries is left by a failure, and so is the
run. -/
theorem step_log_denied :
    let x : Publishing := ⟨.still [.exited 0 "" "", .exited 1 "" "denied"] (.response {}), {}⟩
    let p := usual "Zq8" "Qx9" ["1"]
    x.session.Timely ∧
      stepLinesOf (p.trace x) =
        [(.info, "▶ Setup Docker buildx — started"),
          (.info, "✔ Setup Docker buildx — completed in 0 ms"),
          (.info, "▶ Login to Amazon ECR — started"),
          (.error, "✗ Login to Amazon ECR — failed after 0 ms")] ∧
      ∃ b : Bracket, p.External b.step ∧ b.closing.2 = "✗ Login to Amazon ECR — failed after 0 ms" ∧
        ∃ e, b.left = some e ∧ (p.run.run x).1 = .error e := by
  intro x p
  have timely : x.session.Timely := timely_still _ _
  have told : stepLinesOf (p.trace x) =
      [(.info, "▶ Setup Docker buildx — started"),
        (.info, "✔ Setup Docker buildx — completed in 0 ms"),
        (.info, "▶ Login to Amazon ECR — started"),
        (.error, "✗ Login to Amazon ECR — failed after 0 ms")] := by decide +kernel
  obtain ⟨steps, -, within, crossed, stopped⟩ := p.step_log x
  obtain ⟨-, b, last, closing, left⟩ := crossed
    [(.info, "▶ Setup Docker buildx — started"),
      (.info, "✔ Setup Docker buildx — completed in 0 ms"),
      (.info, "▶ Login to Amazon ECR — started")]
    (.error, "✗ Login to Amazon ECR — failed after 0 ms") [] told (by decide)
  have hb : b ∈ steps := List.mem_of_getLast? last
  obtain ⟨e, left⟩ := Option.isSome_iff_exists.mp left
  obtain ⟨-, failure, failed, same⟩ := stopped b hb e left
  refine ⟨timely, told, b, (within b hb).1, by rw [← closing], e, left, ?_⟩
  rw [failed, same timely]

end Publisher

end ImageRelease
