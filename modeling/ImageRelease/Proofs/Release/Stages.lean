import ImageRelease.Proofs.Selections
import ImageRelease.Proofs.Session.Lookup
import ImageRelease.Publisher

/-!
The stages of a release along their plans.

Only three stages move: the logins, the wheels and the image. `follows_credentials`,
`follows_buildWheel` and `follows_publishImage` give the plan of each, and the other stages are
quiet. What a stage hands on to the next is a function of the publisher and of the files.
-/

namespace ImageRelease

open Session Act

variable {m : Manner} {plan : List Move}

lemma follows_inSession {α : Type} {x : Act Session α} (h : x.Follows m id plan) :
    (inSession x).Follows m Publishing.session plan :=
  fun y => h y.session

lemma follows_update (f : Progress → Progress) :
    (update f).Follows m Publishing.session [] :=
  follows_of_still fun _ => rfl

lemma follows_enter (state : JobState) : (enter state).Follows m Publishing.session [] :=
  follows_update _

lemma follows_warn (text : String) : (warn text).Follows m Publishing.session [] :=
  follows_update _

lemma follows_now : now.Follows m Publishing.session [] :=
  follows_of_still fun _ => rfl

lemma follows_recordStage (stage : Stage) (start : Float) (status : StageStatus)
    (detail : String) : (recordStage stage start status detail).Follows m Publishing.session [] :=
  follows_now.after fun _ => (follows_ofExcept _).after fun _ => (follows_update _).after fun _ =>
    follows_inSession (follows_info _)

def Publishing.entered (y : Publishing) (state : JobState) : Publishing :=
  { y with progress := { y.progress with state } }

def Publishing.recorded (y : Publishing) (t : StageTiming) : Publishing :=
  ⟨y.session.noted (.logged .info ("  " ++ t.status.symbol ++ " " ++ t.stage.name ++ " — " ++
      toString t.milliseconds ++ "ms " ++ t.detail)),
    { y.progress with timings := y.progress.timings ++ [t] }⟩

lemma run_recordStage (stage : Stage) (start : Float) (status : StageStatus) (detail : String)
    (y : Publishing) :
    (recordStage stage start status detail).run y =
      match wholeMilliseconds start y.session.clock with
      | .ok time => (.ok (), y.recorded ⟨stage, time, status, detail⟩)
      | .error e => (.error e, y) := by
  have now_ok : now.run y = (.ok y.session.clock, y) := rfl
  rw [recordStage, run_bind_of_ok now_ok]
  cases wholeMilliseconds start y.session.clock <;> rfl

lemma recordStage_sure {s : Session} {y : Publishing} {start : Float} (timely : s.Timely)
    (hs : s.MayShow start) (hy : s.MayShow y.session.clock) (stage : Stage) (status : StageStatus)
    (detail : String) :
    ∃ time, (recordStage stage start status detail).run y =
      (.ok (), y.recorded ⟨stage, time, status, detail⟩) := by
  obtain ⟨time, ht⟩ := timely start y.session.clock hs hy
  exact ⟨time, by rw [run_recordStage, ht]⟩

lemma follows_recordingFailure {α : Type} (stage : Stage) (start : Float)
    {body : Act Publishing α} (h : body.Follows m Publishing.session plan) :
    (recordingFailure stage start body).Follows m Publishing.session plan :=
  h.onFailure fun _ => follows_recordStage _ _ _ _

/-- What comes of a stage once it has begun: its body, whose failure is recorded, and then its end,
which is recorded as well. -/
def staged {α : Type} (stage : Stage) (start : Float) (state : JobState) (body : Act Publishing α)
    (detail : α → String) : Act Publishing Unit := do
  let a ← recordingFailure stage start body
  enter state
  recordStage stage start .ok (detail a)

lemma follows_staged {α : Type} (stage : Stage) (start : Float) (state : JobState)
    {body : Act Publishing α} (detail : α → String) {y : Publishing}
    (h : body.FollowsFrom m Publishing.session plan y) :
    (staged stage start state body detail).FollowsFrom m Publishing.session plan y :=
  (h.onFailure fun _ => follows_recordStage _ _ _ _).before fun _ =>
    (follows_enter _).after fun _ => follows_recordStage _ _ _ _

namespace Publisher

variable (p : Publisher)

def manner : Manner :=
  p.runner.manner p.settings.aws

/-! ### What stages do -/

/-- The logins: one to set up, two for each registry, and one more. -/
def loginMoves : List Move :=
  .call p.docker.setupCommand none ::
    (p.settings.aws.registries.flatMap (Ecr.movesFor p.settings.aws) ++
      [.call (p.docker.loginCommand p.settings.dockerHub.username none) none])

/-- The build of the wheels, by the program that a session has for it. -/
def wheelMove (interpreter : String) : Move :=
  .call (p.wheelBuilder interpreter).command (some (p.wheelBuilder interpreter).directory.text)

def selection (request : Request) : Selection :=
  request.select p.settings.image.image

/-- Where the registry is asked about a tag. -/
def lookupUrl (s : Selection) : String :=
  p.hub.tagUrl s.repository (match s.reference with | .ok reference => reference | .error _ => "")

/-- Whether a release must not write over another one. -/
def Guards (request : Request) : Prop :=
  request.mode = .release ∧ p.allowOverwrite = false

instance (request : Request) : Decidable (p.Guards request) :=
  inferInstanceAs (Decidable (_ ∧ _))

/-- The questions before an image is built. -/
def lookupMoves (request : Request) : List Move :=
  if p.Guards request ∧ p.dryRun = false then
    [.lookup (Hub.sent (p.lookupUrl (p.selection request)))]
  else []

def buildMove (request : Request) : Move :=
  .call (p.docker.buildCommand (p.buildSpec request (p.selection request))) none

lemma follows_banner (text : String) : (banner text).Follows m Publishing.session [] :=
  (follows_inSession (follows_info _)).after fun _ =>
    (follows_inSession (follows_info _)).after fun _ => follows_inSession (follows_info _)

lemma follows_authorize : p.authorize.Follows m Publishing.session [] := by
  refine follows_now.after fun start => ?_
  dsimp only
  split
  · exact (follows_enter _).after fun _ => (follows_recordStage _ _ _ _).after fun _ =>
      follows_pure _
  · exact (follows_enter _).after fun _ => (follows_warn _).after fun _ =>
      (follows_recordStage _ _ _ _).after fun _ => follows_pure _

lemma follows_validate : p.validate.Follows m Publishing.session [] := by
  refine follows_now.after fun start => ?_
  refine Follows.after (follows_recordingFailure _ _ ?_) fun mode => ?_
  · exact (follows_ofRejection _).after fun mode => (follows_update _).after fun _ => follows_pure _
  · exact (follows_recordStage _ _ _ _).after fun _ => follows_pure _

/-- What must be there before the logins: everything, or nothing in a dry run. -/
def Provided : Prop :=
  p.dryRun = true ∨ p.settings.missingCredentials = []

instance : Decidable p.Provided :=
  inferInstanceAs (Decidable (_ ∨ _))

lemma validateCredentials_ok {u : Unit} (h : p.settings.validateCredentials = .ok u) :
    p.Provided := by
  refine .inr ?_
  unfold Settings.validateCredentials at h
  split at h
  · assumption
  · cases h

/-- The logins of the stage, once nothing is missing. -/
def loggingIn : Act Publishing (List String) := do
  inSession p.docker.setupBuildx
  let hosts ← inSession (Ecr.login p.runner p.settings.aws p.settings.aws.registries)
  inSession (p.docker.login p.settings.dockerHub.username p.settings.dockerHub.password)
  return hosts

/-- What the stage does for the logins, as far as it can fail. -/
def checkedLogins : Act Publishing (List String) := do
  if !p.dryRun then Act.ofRejection p.settings.validateCredentials
  p.loggingIn

lemma credentials_eq : p.credentials = (do
    let start ← now
    staged .credentials start .credentialsConfigured p.checkedLogins fun hosts =>
      "ecr=" ++ toString hosts.length ++ " docker_hub=yes") := rfl

lemma follows_loggingIn : p.loggingIn.Follows p.manner Publishing.session p.loginMoves := by
  rw [loginMoves, ← List.singleton_append]
  refine Follows.bind (follows_inSession (p.docker.follows_setupBuildx _)) fun _ => ?_
  refine Follows.bind (follows_inSession (Ecr.follows_login _ _ _)) fun hosts => ?_
  exact (follows_inSession (p.docker.follows_login _ _ _)).before fun _ => follows_pure _

lemma follows_checkedLogins : p.checkedLogins.Follows p.manner Publishing.session
    (if p.Provided then p.loginMoves else []) := by
  unfold checkedLogins
  by_cases h : p.Provided
  · rw [if_pos h]
    split
    · exact (follows_ofRejection _).after fun _ => p.follows_loggingIn
    · exact p.follows_loggingIn
  · have earnest : (!p.dryRun) = true := by simpa using fun hd => h (.inl hd)
    rw [if_neg h, if_pos earnest]
    cases hc : p.settings.validateCredentials with
    | ok u => exact absurd (p.validateCredentials_ok hc) h
    | error r => exact follows_of_still fun _ => rfl

lemma follows_credentials : p.credentials.Follows p.manner Publishing.session
    (if p.Provided then p.loginMoves else []) := by
  rw [credentials_eq]
  exact follows_now.after fun start y => follows_staged _ _ _ _ (p.follows_checkedLogins y)

lemma credentials_ok {u : Unit} {y z : Publishing} (h : p.credentials.run y = (.ok u, z)) :
    p.Provided := by
  rw [credentials_eq] at h
  obtain ⟨start, t, -, h⟩ := run_bind_eq_ok.mp h
  obtain ⟨hosts, u, hl, -⟩ := run_bind_eq_ok.mp h
  have hl := run_onFailure_eq_ok.mp hl
  unfold checkedLogins at hl
  split at hl
  · obtain ⟨_, _, hc, -⟩ := run_bind_eq_ok.mp hl
    rw [run_ofRejection] at hc
    cases hv : p.settings.validateCredentials with
    | ok u => exact p.validateCredentials_ok hv
    | error r => rw [hv] at hc; cases hc
  · case isFalse hd => exact .inl (by simpa using hd)

lemma follows_lookUpVersion (mode : Mode) (start : Float) :
    (p.lookUpVersion mode start).Follows m Publishing.session [] := by
  refine follows_state.after fun y => ?_
  split
  · exact follows_pure _
  · split
    · exact (follows_recordStage _ _ _ _).after fun _ => follows_fail _
    · exact follows_pure _
  · exact follows_fail _

/-- What is left to do for a request once its version is looked up. -/
def resolving (mode : Mode) (version : Option String) (start : Float) : Act Publishing Request := do
  let request ← Act.ofRejection (Request.create (.mode mode) version)
  update fun g => { g with request := some request }
  enter .versionResolved
  recordStage .resolveVersion start .ok (version.getD "-")
  return request

lemma follows_resolving (mode : Mode) (version : Option String) (start : Float) :
    (resolving mode version start).Follows m Publishing.session [] :=
  (follows_ofRejection _).after fun _ => (follows_update _).after fun _ =>
    (follows_enter _).after fun _ => (follows_recordStage _ _ _ _).after fun _ => follows_pure _

lemma follows_resolveVersion (mode : Mode) :
    (p.resolveVersion mode).Follows m Publishing.session [] := by
  refine follows_now.after fun start => (p.follows_lookUpVersion mode start).after fun version => ?_
  have resolving := follows_resolving (m := m) mode version start
  split
  · split
    · exact (follows_recordStage _ _ _ _).after fun _ => (follows_fail _).after fun _ => resolving
    · exact (follows_warn _).after fun _ => resolving
  · exact resolving

/-- What the stage does for the wheels, as far as it can fail. -/
def makingWheels (interpreter : String) : Act Publishing (List Artifact) := do
  let artifacts ← inSession (p.wheelBuilder interpreter).build
  update fun g => { g with artifacts }
  return artifacts

lemma follows_makingWheels (interpreter : String) :
    (p.makingWheels interpreter).Follows p.manner Publishing.session [p.wheelMove interpreter] :=
  (follows_inSession ((p.wheelBuilder interpreter).follows_build p.settings.aws)).before fun _ =>
    (follows_update _).after fun _ => follows_pure _

lemma buildWheel_eq : p.buildWheel = (do
    let start ← now
    let s ← Act.state
    staged .buildWheel start .wheelBuilt (p.makingWheels s.session.interpreter) fun artifacts =>
      toString artifacts.length ++ " wheel(s)") := rfl

lemma follows_buildWheel_of {y : Publishing}
    (h : (p.makingWheels y.session.interpreter).FollowsFrom m Publishing.session plan y) :
    p.buildWheel.FollowsFrom m Publishing.session plan y := by
  rw [buildWheel_eq]
  refine FollowsFrom.after (follows_now y) fun start t _ hn _ _ => ?_
  cases hn
  refine FollowsFrom.after (follows_state y) fun z t _ hs _ _ => ?_
  cases hs
  exact follows_staged _ _ _ _ h

lemma follows_buildWheel (y : Publishing) :
    p.buildWheel.FollowsFrom p.manner Publishing.session [p.wheelMove y.session.interpreter] y :=
  p.follows_buildWheel_of (p.follows_makingWheels y.session.interpreter y)

/-! ### The image -/

/-- What comes of the question whether a tag is released yet. -/
def checked (s : Selection) (reply : Reply) : Except Failure Unit :=
  match Hub.found (p.lookupUrl s) reply with
  | .ok true => .error (.rejected (.releaseTagExists s.tag))
  | .ok false => .ok ()
  | .error e => .error e

lemma colon_mem_selection (request : Request) : ':' ∈ (p.selection request).tag.toList :=
  request.colon_mem_select _

lemma found_of_checked {s : Selection} {reply : Reply} {u : Unit}
    (h : p.checked s reply = .ok u) : Hub.found (p.lookupUrl s) reply = .ok false := by
  unfold checked at h
  generalize Hub.found (p.lookupUrl s) reply = found at h ⊢
  rcases found with e | _ | _
  · cases h
  · rfl
  · cases h

lemma lookupUrl_eq {s : Selection} {reference : String} (h : s.reference = .ok reference) :
    p.lookupUrl s = p.hub.tagUrl s.repository reference := by
  simp only [lookupUrl, h]

lemma checkUnreleased_leads (hd : p.dryRun = false) {r : Selection} (hr : ':' ∈ r.tag.toList)
    (s : Session) :
    ∃ new, s.Leads p.manner new ((p.checkUnreleased r).run s).2 ∧
      Hub.Looked (p.lookupUrl r) s.reply new ∧
      ((p.checkUnreleased r).run s).1 = p.checked r s.reply := by
  obtain ⟨reference, href, -⟩ := Selection.tag_eq hr
  obtain ⟨new, lead, looked, same⟩ := Hub.exists?_leads (m := p.manner) hd p.hub
    r.repository reference s
  rw [← p.lookupUrl_eq href] at looked same
  have step : (p.checkUnreleased r).run s =
      (p.hub.exists? r.repository reference >>= fun exists? =>
        if exists? then .fail (.rejected (.releaseTagExists r.tag)) else pure ()).run s := by
    simp only [checkUnreleased, equipment, hd, href, run_bind, run_ofExcept, Bool.false_eq_true,
      ↓reduceIte]
  unfold checked
  rw [step, ← same]
  rcases hx : (p.hub.exists? r.repository reference).run s with ⟨e | exists?, t⟩
  · rw [run_bind_of_error hx]
    rw [hx] at lead
    exact ⟨new, lead, looked, rfl⟩
  · rw [run_bind_of_ok hx]
    rw [hx] at lead
    cases exists? <;> exact ⟨new, lead, looked, rfl⟩

lemma follows_checkUnreleased (request : Request) :
    (p.checkUnreleased (p.selection request)).Follows p.manner id
      (if p.dryRun = false then [.lookup (Hub.sent (p.lookupUrl (p.selection request)))]
        else []) := fun s => by
  unfold FollowsFrom
  cases hd : p.dryRun with
  | true =>
    unfold checkUnreleased
    rw [hd]
    exact follows_info _ s
  | false =>
    obtain ⟨new, lead, looked, same⟩ :=
      p.checkUnreleased_leads hd (p.colon_mem_selection request) s
    refine ⟨new, lead, looked.along fun hok => ?_⟩
    cases h : ((p.checkUnreleased (p.selection request)).run s).1 with
    | error e => rw [h] at hok; cases hok
    | ok u => exact p.found_of_checked (same.symm.trans h)

/-- What is done for the image, as far as it can fail as a stage. -/
def making (request : Request) : Act Publishing Unit := do
  if request.mode = .release ∧ !p.allowOverwrite then
    inSession (p.checkUnreleased (p.selection request))
  let _ ← inSession (p.docker.build (p.buildSpec request (p.selection request)))

lemma guards_iff (request : Request) :
    (request.mode = .release ∧ (!p.allowOverwrite) = true) ↔ p.Guards request := by
  simp [Guards]

/-- The selection is made a record, in the places of surrogates that the session has. -/
def selecting (request : Request) : Act Publishing Selection := do
  let places := (← Act.state).session.files.places
  Act.ofExcept (request.selection p.settings.image.image places)

lemma run_selecting (request : Request) (y : Publishing) : (p.selecting request).run y =
    (request.selection p.settings.image.image y.session.files.places, y) := by
  rw [selecting, run_bind_of_ok (run_state y), run_ofExcept]

lemma publishImage_eq (request : Request) :
    p.publishImage request = (do
      let start ← now
      let _ ← p.selecting request
      update fun g => { g with selection := some (p.selection request) }
      staged .publishImage start .imagePublished (p.making request) fun _ =>
        (p.selection request).tag) := by
  refine Act.ext fun y => ?_
  have selected := p.run_selecting request y
  rw [publishImage, run_bind_of_ok (x := now) (t := y) rfl, run_bind_of_ok (x := now) (t := y) rfl,
    run_bind_of_ok (run_state y)]
  dsimp only
  cases made : request.selection p.settings.image.image y.session.files.places with
  | error e =>
    rw [made] at selected
    rw [ofExcept_error_bind, run_fail, run_bind_of_error selected]
  | ok s =>
    rw [made] at selected
    obtain ⟨rfl, -⟩ := Request.selection_eq_ok.mp made
    rw [ofExcept_ok_bind, run_bind_of_ok selected]
    rfl

lemma follows_selecting (request : Request) :
    (p.selecting request).Follows p.manner Publishing.session [] :=
  follows_state.after fun _ => follows_ofExcept _

variable {request : Request} {places : Text.Surrogate.Places}

lemma selection_ok (unicode : Text.IsUnicode (p.selection request).tag places) :
    request.selection p.settings.image.image places = .ok (p.selection request) := by
  rw [Request.selection_eq]
  exact if_pos unicode

lemma selection_alone (alone : ¬Text.IsUnicode (p.selection request).tag places) :
    request.selection p.settings.image.image places = .error (p.selection request).unwritable := by
  rw [Request.selection_eq]
  exact if_neg alone

/-- Where a surrogate stands alone in the tag, the stage fails before anything is done. -/
lemma publishImage_unwritable {y : Publishing}
    (alone : ¬Text.IsUnicode (p.selection request).tag y.session.files.places) :
    (p.publishImage request).run y = (.error (p.selection request).unwritable, y) := by
  have failed := p.run_selecting request y
  rw [p.selection_alone alone] at failed
  rw [publishImage_eq, run_bind_of_ok (x := now) rfl, run_bind_of_error failed]

lemma thorough_making (request : Request) (y : Publishing) :
    (p.making request).Thorough p.manner Publishing.session
      (p.lookupMoves request ++ [p.buildMove request]) y := by
  have building : ∀ z, (do
      let _ ← inSession (p.docker.build (p.buildSpec request (p.selection request)))
      : Act Publishing Unit).Thorough p.manner Publishing.session [p.buildMove request] z :=
    fun z => Thorough.before (p.docker.thorough_build _ _ z.session) (fun _ => follows_pure ())
      fun _ _ _ _ _ => rfl
  unfold making lookupMoves
  by_cases h : p.Guards request
  · have checking := follows_inSession (p.follows_checkUnreleased request)
    rw [if_pos ((p.guards_iff request).mpr h)]
    simp only [h, true_and]
    exact (checking y).thorough (List.cons_ne_nil _ _) fun _ z _ _ _ _ => building z
  · rw [if_neg ((p.guards_iff request).not.mpr h), if_neg fun hl => h hl.1]
    exact building y

lemma follows_publishImage (request : Request) :
    (p.publishImage request).Follows p.manner Publishing.session
      (p.lookupMoves request ++ [p.buildMove request]) := by
  rw [publishImage_eq]
  refine follows_now.after fun start => (p.follows_selecting request).after fun _ =>
    (follows_update _).after fun _ y => ?_
  exact follows_staged _ _ _ _ (p.thorough_making request y).follows

/-- Where the clock is sound, the last stage fails for no other reason than its moves. -/
lemma thorough_publishImage (request : Request) {y : Publishing} (timely : y.session.Timely) :
    (p.publishImage request).Thorough p.manner Publishing.session
      (p.lookupMoves request ++ [p.buildMove request]) y := by
  have ne : p.lookupMoves request ++ [p.buildMove request] ≠ [] := by simp
  rw [publishImage_eq]
  refine (follows_now y).thorough_after ne fun start t _ h _ _ => ?_
  cases h
  refine (p.follows_selecting request y).thorough_after ne fun _ t _ h _ _ => ?_
  rw [run_selecting] at h
  obtain ⟨-, rfl⟩ := Prod.mk.inj h
  refine (follows_update _ y).thorough_after ne fun _ t _ h _ _ => ?_
  cases h
  refine Thorough.before ((p.thorough_making request _).onFailure fun _ => ?_) (fun _ => ?_)
    fun _ t _ _ lead => ?_
  · exact follows_recordStage _ _ _ _
  · exact (follows_enter _).after fun _ => follows_recordStage _ _ _ _
  · obtain ⟨time, sure⟩ :=
      recordStage_sure (y := t.entered .imagePublished)
        timely (mayShow_clock _) (lead.mayShow (mayShow_clock _)) .publishImage .ok
        (p.selection request).tag
    exact congrArg (fun r => Except.isOk r.1) sure

end Publisher

end ImageRelease
