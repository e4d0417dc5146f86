import ImageRelease.Proofs.Release.Course
import ImageRelease.Proofs.Session.Twins

/-!
Two publishers side by side.

Two publishers that differ in their secrets alone go through their runs together, stage by stage:
`together_run` says that they end with the same result or with failures that are told alike, with
the same progress, and with journals that go on together. A publisher is its own twin, so this also
says what one run can fail with.
-/

namespace ImageRelease

open Session Act

variable {k : Pairing}

/-- Two publishers with the same progress, in sessions that go on together. -/
structure Publishing.Twins (k : Pairing) (y z : Publishing) : Prop where
  session : y.session.Twins k z.session
  progress : z.progress = y.progress

/-- Two actions of publishers end alike. -/
def Act.Join {α : Type} (k : Pairing) (x y : Act Publishing α) : Prop :=
  Together k Publishing.session (Publishing.Twins k) x y

lemma together_inSession {α : Type} {x y : Act Session α}
    (h : Together k id (Session.Twins k) x y) : Join k (inSession x) (inSession y) := by
  intro u v huv
  have ends := h u.session v.session huv.session
  unfold Alike at ends ⊢
  rw [inSession, inSession, run_within, run_within]
  generalize x.run u.session = left at ends ⊢
  generalize y.run v.session = right at ends ⊢
  cases ends with
  | ok a hs => exact .ok a ⟨hs, huv.progress⟩
  | error he hs => exact .error he ⟨hs, huv.progress⟩

lemma together_update (f : Progress → Progress) : Join k (update f) (update f) :=
  fun _ _ h => .ok () ⟨h.session, congrArg f h.progress⟩

lemma together_enter (state : JobState) : Join k (enter state) (enter state) :=
  together_update _

lemma together_warn (text : String) : Join k (warn text) (warn text) :=
  together_update _

lemma together_now : Join k now now := fun _ _ h =>
  Alike.state (by rw [h.session.clock]; exact alike_pure _ h)

lemma wholeMilliseconds_plain (start now : Float) (e : Failure)
    (h : wholeMilliseconds start now = .error e) : e.exit? = none := by
  unfold wholeMilliseconds at h
  dsimp only at h
  split at h <;> cases h <;> rfl

lemma Mode.parse_plain (asked : Asked) (r : Rejection) (h : Mode.parse asked = .error r) :
    (Failure.rejected r).exit? = none := by
  cases asked with
  | nothing => cases h
  | mode m => cases h
  | word s =>
    unfold parse at h
    dsimp only at h
    split at h
    · cases h
    · split at h <;> cases h
      rfl

lemma Request.create_plain (asked : Asked) (version : Option String) (r : Rejection)
    (h : create asked version = .error r) : (Failure.rejected r).exit? = none := by
  unfold create at h
  split at h
  · case h_1 hm => cases h; exact Mode.parse_plain _ _ hm
  · dsimp only at h
    split at h <;> cases h
    rfl

lemma Selection.reference_plain (s : Selection) (e : Failure) (h : s.reference = .error e) :
    e.exit? = none := by
  unfold reference at h
  split at h <;> cases h
  rfl

lemma Request.selection_plain {r : Request} {image : String} {places : Text.Surrogate.Places}
    (e : Failure) (h : r.selection image places = .error e) : e.exit? = none := by
  rw [selection_eq] at h
  split at h <;> cases h
  rfl

lemma Settings.validateCredentials_plain (s : Settings) (r : Rejection)
    (h : s.validateCredentials = .error r) : (Failure.rejected r).exit? = none := by
  unfold validateCredentials at h
  split at h <;> cases h
  rfl

lemma Properties.readVersion_plain (files : FileTree) (path : Path) (key : String) (e : Failure)
    (h : readVersion files path key = .error e) : e.exit? = none := by
  unfold readVersion at h
  split at h
  · cases h; rfl
  · cases h; rfl
  · split at h <;> cases h
    rfl

lemma together_recordStage (stage : Stage) (start : Float) (status : StageStatus)
    (detail : String) : Join k (recordStage stage start status detail)
      (recordStage stage start status detail) :=
  together_now.bind fun _ => (together_ofExcept (wholeMilliseconds_plain _ _)).bind fun _ =>
    (together_update _).bind fun _ =>
    together_inSession (together_info _)

lemma recordStage_goesOn (stage : Stage) (start : Float) (status : StageStatus) (detail : String)
    (y : Publishing) :
    GoesOn y.session.journal ((recordStage stage start status detail).run y).2.session.journal := by
  rw [run_recordStage]
  split
  · exact ⟨[_], rfl, rfl⟩
  · exact .refl _

lemma together_recordingFailure {α : Type} (stage : Stage) (start : Float)
    {x y : Act Publishing α} (h : Join k x y) :
    Join k (recordingFailure stage start x) (recordingFailure stage start y) := by
  intro u v huv
  refine Alike.onFailure (h u v huv) (fun e f u' v' hf h' => ?_) ?_ ?_
  · rw [hf.message]
    exact together_recordStage _ _ _ _ u' v' h'
  · exact fun _ _ => recordStage_goesOn _ _ _ _ _
  · exact fun _ _ => recordStage_goesOn _ _ _ _ _

lemma together_staged {α : Type} (stage : Stage) (start : Float) (state : JobState)
    {x y : Act Publishing α} (detail : α → String) (h : Join k x y) :
    Join k (staged stage start state x detail) (staged stage start state y detail) :=
  Together.bind (together_recordingFailure _ _ h) fun _ =>
    (together_enter _).bind fun _ => together_recordStage _ _ _ _

lemma together_banner (text : String) : Join k (Publisher.banner text) (Publisher.banner text) :=
  (together_inSession (together_info _)).bind fun _ =>
    (together_inSession (together_info _)).bind fun _ => together_inSession (together_info _)

namespace Publisher

def withSecrets (p : Publisher) (secretAccessKey password : String) : Publisher :=
  { p with
    settings := { p.settings with
      aws := { p.settings.aws with secretAccessKey }
      dockerHub := { p.settings.dockerHub with password } } }

/-- What it takes to compare a publisher with one that has other secrets: neither lacks what the
other has, their passwords are masked from the start, and the commands that are given a secret pass
for each other. -/
structure Comparable (k : Pairing) (p q : Publisher) : Prop where
  same : q = p.withSecrets q.settings.aws.secretAccessKey q.settings.dockerHub.password
  provided : q.settings.validateCredentials = p.settings.validateCredentials
  left_known : p.settings.dockerHub.password = "" ∨
    p.settings.dockerHub.password ∈ secretsOf k.left
  right_known : q.settings.dockerHub.password = "" ∨
    q.settings.dockerHub.password ∈ secretsOf k.right
  token : ∀ s, k.command
    (p.runner.commandIn s (Ecr.tokenCommand p.settings.aws.region) none
      p.settings.aws.environment none)
    (p.runner.commandIn s (Ecr.tokenCommand p.settings.aws.region) none
      q.settings.aws.environment none)
  login : ∀ s, k.command
    (p.runner.commandIn s (p.docker.loginCommand p.settings.dockerHub.username none) none []
      (some p.settings.dockerHub.password))
    (p.runner.commandIn s (p.docker.loginCommand p.settings.dockerHub.username none) none []
      (some q.settings.dockerHub.password))

variable {p q : Publisher}

lemma together_authorize (p : Publisher) : Join k p.authorize p.authorize := by
  refine together_now.bind fun start => ?_
  dsimp only
  split
  · exact (together_enter _).bind fun _ => (together_recordStage _ _ _ _).bind fun _ =>
      together_pure _
  · exact (together_enter _).bind fun _ => (together_warn _).bind fun _ =>
      (together_recordStage _ _ _ _).bind fun _ => together_pure _

lemma together_validate (p : Publisher) : Join k p.validate p.validate := by
  refine together_now.bind fun start =>
    Together.bind (together_recordingFailure _ _ ?_) fun mode => ?_
  · refine (together_ofRejection (Mode.parse_plain _)).bind fun mode => ?_
    exact (together_update _).bind fun _ => together_pure _
  · exact (together_recordStage _ _ _ _).bind fun _ => together_pure _

lemma together_credentials (h : Comparable k p q) : Join k p.credentials q.credentials := by
  have runner : q.runner = p.runner := by rw [h.same]; rfl
  have docker : q.docker = p.docker := by rw [h.same]; rfl
  have dry : q.dryRun = p.dryRun := by rw [h.same]; rfl
  have region : q.settings.aws.region = p.settings.aws.region := by rw [h.same]; rfl
  have registries : q.settings.aws.registries = p.settings.aws.registries := by rw [h.same]; rfl
  have username : q.settings.dockerHub.username = p.settings.dockerHub.username := by
    rw [h.same]; rfl
  have logins : Join k p.loggingIn q.loggingIn := by
    unfold loggingIn
    rw [runner, docker, registries, username]
    refine Together.bind (together_inSession p.docker.together_setupBuildx) fun _ => ?_
    refine Together.bind
      (together_inSession (Ecr.together_login _ region h.token _)) fun hosts => ?_
    refine Together.bind (together_inSession ?_) fun _ => together_pure _
    exact p.docker.together_login _ h.left_known h.right_known h.login
  rw [credentials_eq, credentials_eq]
  refine together_now.bind fun start => together_staged _ _ _ _ ?_
  unfold checkedLogins
  rw [dry, h.provided]
  split
  · exact (together_ofRejection p.settings.validateCredentials_plain).bind fun _ => logins
  · exact logins

lemma together_resolveVersion (p : Publisher) (mode : Mode) :
    Join k (p.resolveVersion mode) (p.resolveVersion mode) := by
  have looking : ∀ start, Join k (p.lookUpVersion mode start) (p.lookUpVersion mode start) := by
    intro start y z h
    refine Alike.state ?_
    rw [h.session.files]
    dsimp only
    split
    · exact alike_pure _ h
    · split
      · exact (together_recordStage _ _ _ _).bind (fun _ => together_fail rfl) y z h
      · exact alike_pure _ h
    · case h_3 he => exact alike_fail (Properties.readVersion_plain _ _ _ _ he) h
  refine together_now.bind fun start => (looking start).bind fun version => ?_
  have resolving : Join k (resolving mode version start) (resolving mode version start) :=
    (together_ofRejection (Request.create_plain _ _)).bind fun _ =>
      (together_update _).bind fun _ => (together_enter _).bind fun _ =>
        (together_recordStage _ _ _ _).bind fun _ => together_pure _
  dsimp only
  split
  · split
    · exact (together_recordStage _ _ _ _).bind fun _ => (together_fail rfl).bind fun _ => resolving
    · exact (together_warn _).bind fun _ => resolving
  · exact resolving

lemma together_buildWheel (p : Publisher) : Join k p.buildWheel p.buildWheel := by
  refine together_now.bind fun start => fun y z h => Alike.state ?_
  rw [h.session.interpreter]
  have making : Join k (p.makingWheels y.session.interpreter)
      (p.makingWheels y.session.interpreter) :=
    (together_inSession (WheelBuilder.together_build _)).bind fun _ =>
      (together_update _).bind fun _ => together_pure _
  exact together_staged .buildWheel start .wheelBuilt _ making y z h

lemma together_checkUnreleased (p : Publisher) (s : Selection) :
    Together k id (Session.Twins k) (p.checkUnreleased s) (p.checkUnreleased s) := by
  unfold checkUnreleased
  split
  · exact together_info _
  · refine (together_ofExcept s.reference_plain).bind fun reference => ?_
    refine (Hub.together_exists? _ _ _).bind fun found => ?_
    split
    · exact together_fail rfl
    · exact together_pure _

lemma together_selecting (p : Publisher) (request : Request) :
    Join k (p.selecting request) (p.selecting request) := fun y z h =>
  Alike.state (by
    rw [h.session.files]
    exact together_ofExcept Request.selection_plain _ _ h)

lemma together_publishImage (p : Publisher) (request : Request) :
    Join k (p.publishImage request) (p.publishImage request) := by
  have building : Join k
      (do let _ ← inSession (p.docker.build (p.buildSpec request (p.selection request))))
      (do let _ ← inSession (p.docker.build (p.buildSpec request (p.selection request)))) :=
    (together_inSession (p.docker.together_build _)).bind fun _ => together_pure ()
  rw [publishImage_eq]
  refine together_now.bind fun start => ?_
  refine (p.together_selecting request).bind fun _ => ?_
  refine (together_update _).bind fun _ => together_staged _ _ _ _ ?_
  unfold making
  split
  · exact (together_inSession (p.together_checkUnreleased _)).bind fun _ => building
  · exact building

/-! ### Whole runs -/

lemma together_stages (h : Comparable k p q) : Join k p.stages q.stages := by
  have authorize : q.authorize = p.authorize := by rw [h.same]; rfl
  have validate : q.validate = p.validate := by rw [h.same]; rfl
  have resolveVersion : q.resolveVersion = p.resolveVersion := by rw [h.same]; rfl
  have buildWheel : q.buildWheel = p.buildWheel := by rw [h.same]; rfl
  have publishImage (request : Request) : q.publishImage request = p.publishImage request := by
    rw [h.same]
    rfl
  unfold stages
  simp only [authorize, validate, resolveVersion, buildWheel, publishImage]
  refine p.together_authorize.bind fun allowed => ?_
  split
  · refine p.together_validate.bind fun mode => ?_
    refine (together_credentials h).bind fun _ => ?_
    refine (p.together_resolveVersion mode).bind fun request => ?_
    refine p.together_buildWheel.bind fun _ => ?_
    refine (p.together_publishImage request).bind fun _ => ?_
    exact (together_enter _).bind fun _ => together_pure true
  · exact together_pure false

lemma together_closing (p : Publisher) (start : Float) (delivered : Bool) :
    Join k (p.closing start delivered) (p.closing start delivered) := by
  have reporting : Join k (do return p.result (← Act.state).progress)
      (do return p.result (← Act.state).progress) := fun y z h =>
    Alike.state (by rw [h.progress]; exact alike_pure _ h)
  unfold closing
  split
  · refine together_now.bind fun last => ?_
    refine (together_ofExcept (wholeMilliseconds_plain _ _)).bind fun time => fun y z h =>
      Alike.state ?_
    rw [h.progress]
    exact (together_banner _).bind (fun _ => reporting) y z h
  · exact reporting

/-- **Runs side by side**: publishers that differ in their secrets alone end their runs alike. -/
theorem together_run (h : Comparable k p q) : Join k p.run q.run := by
  have heading : q.heading = p.heading := by rw [h.same]; rfl
  have closing : q.closing = p.closing := by rw [h.same]; rfl
  rw [run_eq, run_eq, heading, closing]
  refine (together_banner _).bind fun _ => together_now.bind fun start => ?_
  refine Together.bind (fun y z hyz => ?_) fun delivered => p.together_closing start delivered
  refine Alike.onFailure (together_stages h y z hyz)
    (fun _ _ y z _ => together_enter .failed y z) ?_ ?_
  · exact fun _ y => .refl y.session.journal
  · exact fun _ y => .refl y.session.journal

end Publisher

end ImageRelease
