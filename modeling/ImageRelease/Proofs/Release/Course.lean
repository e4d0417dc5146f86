import ImageRelease.Proofs.Release.Stages

/-!
The course of a run.

What a run may do is laid down before it starts: `plan` gives its moves from the publisher and the
session alone. The version comes from the files as they will be after the logins, because a login
may change them. A run that is not admitted has nothing planned, and `follows_run` says that every
run goes along its plan, whatever happens on the way.
-/

namespace ImageRelease

open Session Act

namespace Publisher

variable (p : Publisher)

/-! ### The request -/

def versionFrom (mode : Mode) (files : FileTree) : Except Failure (Option String) :=
  match Properties.readVersion files (p.root.join p.settings.propertiesFile)
    p.settings.versionKey with
  | .ok version => .ok version
  | .error (.rejected (.propertiesNotFound path)) =>
    if mode = .release then .error (.rejected (.propertiesNotFound path)) else .ok none
  | .error e => .error e

lemma readVersion_of_versionFrom {mode : Mode} {files : FileTree} {version : String}
    (h : p.versionFrom mode files = .ok (some version)) :
    Properties.readVersion files (p.root.join p.settings.propertiesFile) p.settings.versionKey =
      .ok (some version) := by
  unfold versionFrom at h
  split at h
  · case h_1 hr => rw [hr, Except.ok.inj h]
  · split at h <;> cases h
  · cases h

def requestFrom (mode : Mode) (files : FileTree) : Except Failure Request :=
  match p.versionFrom mode files with
  | .error e => .error e
  | .ok version =>
    if version.isNone ∧ mode = .release then
      .error (.rejected (.missingVersion p.settings.versionKey))
    else (Request.create (.mode mode) version).mapError .rejected

def filesRead (s : Session) : FileTree :=
  s.filesAfter (if p.dryRun then 0 else p.loginMoves.length)

@[simp] lemma places_filesRead (s : Session) : (p.filesRead s).places = s.files.places :=
  places_filesAfter _ _

/-- The request that a run makes in a session. -/
def requestIn (s : Session) : Except Failure Request :=
  match Mode.parse p.asked with
  | .error r => .error (.rejected r)
  | .ok mode => p.requestFrom mode (p.filesRead s)

lemma create_of_requestIn {s : Session} {request : Request} (h : p.requestIn s = .ok request) :
    ∃ mode version, Mode.parse p.asked = .ok mode ∧
      Request.create (.mode mode) version = .ok request := by
  unfold requestIn at h
  cases asked : Mode.parse p.asked with
  | error r => rw [asked] at h; cases h
  | ok mode =>
    rw [asked] at h
    dsimp only [requestFrom] at h
    split at h
    · cases h
    · case h_2 version _ =>
      split at h
      · cases h
      · refine ⟨mode, version, rfl, ?_⟩
        cases made : Request.create (.mode mode) version with
        | error r => rw [made] at h; cases h
        | ok r => rw [made] at h; cases h; rfl

lemma lookUpVersion_ok {mode : Mode} {start : Float} {version : Option String}
    {y z : Publishing} (h : (p.lookUpVersion mode start).run y = (.ok version, z)) :
    p.versionFrom mode y.session.files = .ok version ∧ z = y := by
  unfold lookUpVersion at h
  obtain ⟨s, t, hs, h⟩ := run_bind_eq_ok.mp h
  cases hs
  dsimp only at h
  split at h
  · case h_1 hr =>
    rw [versionFrom, hr]
    cases h
    exact ⟨rfl, rfl⟩
  · case h_2 hr =>
    rw [versionFrom, hr]
    split at h
    · obtain ⟨_, _, -, hf⟩ := run_bind_eq_ok.mp h
      cases hf
    · case isFalse hm => cases h; simp [hm]
  · cases h

lemma resolving_ok {mode : Mode} {version : Option String} {start : Float} {request : Request}
    {y z : Publishing} (h : (resolving mode version start).run y = (.ok request, z)) :
    (Request.create (.mode mode) version).mapError Failure.rejected = .ok request := by
  obtain ⟨made, t, hm, h⟩ := run_bind_eq_ok.mp h
  obtain ⟨_, _, -, h⟩ := run_bind_eq_ok.mp h
  obtain ⟨_, _, -, h⟩ := run_bind_eq_ok.mp h
  obtain ⟨_, _, -, h⟩ := run_bind_eq_ok.mp h
  cases h
  rw [run_ofRejection] at hm
  exact congrArg Prod.fst hm

lemma resolveVersion_ok {mode : Mode} {request : Request} {y z : Publishing}
    (h : (p.resolveVersion mode).run y = (.ok request, z)) :
    p.requestFrom mode y.session.files = .ok request := by
  unfold resolveVersion at h
  obtain ⟨start, t, hs, h⟩ := run_bind_eq_ok.mp h
  cases hs
  obtain ⟨version, t, hv, h⟩ := run_bind_eq_ok.mp h
  obtain ⟨hv, rfl⟩ := p.lookUpVersion_ok hv
  unfold requestFrom
  rw [hv]
  dsimp only at h ⊢
  split at h
  · case isTrue hn =>
    split at h
    · obtain ⟨_, _, -, h⟩ := run_bind_eq_ok.mp h
      obtain ⟨_, _, hf, -⟩ := run_bind_eq_ok.mp h
      cases hf
    · case isFalse hm =>
      obtain ⟨_, _, -, h⟩ := run_bind_eq_ok.mp h
      rw [if_neg fun hr => hm hr.2]
      exact resolving_ok h
  · case isFalse hn =>
    rw [if_neg fun hr => hn hr.1]
    exact resolving_ok h

/-! ### Who is let in -/

/-- The repository may release, the mode is known, and nothing is missing that is needed. -/
def Admitted : Prop :=
  repositoryAllowed p.repository p.settings.allowedRepository = true ∧
    (Mode.parse p.asked).isOk = true ∧ p.Provided

instance : Decidable p.Admitted :=
  inferInstanceAs (Decidable (_ ∧ _ ∧ _))

lemma authorize_ok {allowed : Bool} {y z : Publishing} (h : p.authorize.run y = (.ok allowed, z)) :
    allowed = repositoryAllowed p.repository p.settings.allowedRepository := by
  unfold authorize at h
  obtain ⟨start, t, -, h⟩ := run_bind_eq_ok.mp h
  dsimp only at h
  split at h
  · case isTrue ha =>
    obtain ⟨_, _, -, h⟩ := run_bind_eq_ok.mp h
    obtain ⟨_, _, -, h⟩ := run_bind_eq_ok.mp h
    cases h
    exact ha.symm
  · case isFalse ha =>
    obtain ⟨_, _, -, h⟩ := run_bind_eq_ok.mp h
    obtain ⟨_, _, -, h⟩ := run_bind_eq_ok.mp h
    obtain ⟨_, _, -, h⟩ := run_bind_eq_ok.mp h
    cases h
    exact (Bool.eq_false_iff.mpr ha).symm

lemma validate_ok {mode : Mode} {y z : Publishing} (h : p.validate.run y = (.ok mode, z)) :
    Mode.parse p.asked = .ok mode := by
  unfold validate at h
  obtain ⟨start, t, -, h⟩ := run_bind_eq_ok.mp h
  obtain ⟨parsed, u, hp, h⟩ := run_bind_eq_ok.mp h
  obtain ⟨_, _, -, h⟩ := run_bind_eq_ok.mp h
  cases h
  obtain ⟨_, _, hm, hp⟩ := run_bind_eq_ok.mp (run_onFailure_eq_ok.mp hp)
  obtain ⟨_, _, -, hp⟩ := run_bind_eq_ok.mp hp
  cases hp
  rw [run_ofRejection] at hm
  cases hr : Mode.parse p.asked with
  | error r => rw [hr] at hm; cases hm
  | ok m => rw [hr] at hm; cases hm; rfl

/-! ### Up to the image -/

/-- The stages before the image, and the request that they end with; none if the run is skipped. -/
def early : Act Publishing (Option Request) := do
  if ← p.authorize then
    let mode ← p.validate
    p.credentials
    let request ← p.resolveVersion mode
    p.buildWheel
    return some request
  return none

def late : Option Request → Act Publishing Bool
  | some request => do
    p.publishImage request
    enter .delivered
    return true
  | none => return false

lemma stages_eq : p.stages = p.early >>= p.late := by
  unfold stages early
  simp only [bind_assoc]
  congr 1
  funext allowed
  cases allowed
  · rfl
  · rw [if_pos rfl, if_pos rfl]
    simp only [bind_assoc, pure_bind, late]

lemma lookup_not_mem_loginMoves (url : String) : .lookup url ∉ p.loginMoves := by
  simp [loginMoves, Ecr.movesFor]

def earlyPlan (s : Session) : List Move :=
  if p.Admitted then
    p.loginMoves ++ match p.requestIn s with
      | .ok _ => [p.wheelMove s.interpreter]
      | .error _ => []
  else []

lemma files_of_logins {s t : Session} {new : List Event} (lead : s.Leads p.manner new t)
    (moves : movesOf new = p.loginMoves) : t.files = p.filesRead s := by
  rw [lead.files, lead.startedIn (by rw [moves]; exact p.lookup_not_mem_loginMoves), moves]
  rfl

lemma follows_early (y : Publishing) :
    p.early.FollowsFrom p.manner Publishing.session (p.earlyPlan y.session) y := by
  unfold early earlyPlan
  refine FollowsFrom.after (p.follows_authorize y) fun allowed t new₁ h₁ lead₁ quiet₁ => ?_
  rw [p.authorize_ok h₁]
  by_cases hl : repositoryAllowed p.repository p.settings.allowedRepository = true
  · rw [if_pos hl]
    cases hm : Mode.parse p.asked with
    | error r =>
      have barred : ¬p.Admitted := fun ha => by
        have known := ha.2.1
        rw [hm] at known
        cases known
      rw [if_neg barred]
      exact FollowsFrom.after (p.follows_validate t) fun mode _ _ hv _ _ =>
        nomatch hm.symm.trans (p.validate_ok hv)
    | ok mode =>
      refine FollowsFrom.after (p.follows_validate t) fun mode' t₂ new₂ h₂ lead₂ quiet₂ => ?_
      obtain rfl : mode = mode' := Except.ok.inj (hm.symm.trans (p.validate_ok h₂))
      by_cases hp : p.Provided
      · rw [if_pos ⟨hl, by rw [hm]; rfl, hp⟩]
        have logins := p.follows_credentials t₂
        rw [if_pos hp] at logins
        refine logins.bind fun _ t₃ new₃ _ lead₃ along₃ => ?_
        have lead := (lead₁.append lead₂).append lead₃
        have files := p.files_of_logins lead (by simp [quiet₁, quiet₂, along₃.whole rfl])
        have asked : p.requestIn y.session = p.requestFrom mode t₃.session.files := by
          simp only [requestIn, hm, files]
        refine FollowsFrom.after (p.follows_resolveVersion mode t₃)
          fun request t₄ _ h₄ lead₄ _ => ?_
        rw [asked, p.resolveVersion_ok h₄, ← (lead.append lead₄).interpreter]
        exact (p.follows_buildWheel t₄).before fun _ => follows_pure _
      · rw [if_neg fun ha => hp ha.2.2]
        have logins := p.follows_credentials t₂
        rw [if_neg hp] at logins
        exact logins.after fun _ _ _ hc _ _ => absurd (p.credentials_ok hc) hp
  · rw [if_neg fun ha => hl ha.1, if_neg hl]
    exact follows_pure _ t

/-- A run that comes to the image was let in, and it has the request that was to be expected. -/
lemma early_some {request : Request} {y z : Publishing}
    (h : p.early.run y = (.ok (some request), z)) :
    p.Admitted ∧ p.requestIn y.session = .ok request := by
  obtain ⟨allowed, t₁, h₁, h⟩ := run_bind_eq_ok.mp h
  obtain ⟨new₁, lead₁, along₁⟩ := (p.follows_authorize (m := p.manner) y).ok h₁
  have ha := p.authorize_ok h₁
  cases allowed with
  | false => cases h
  | true =>
    rw [if_pos rfl] at h
    obtain ⟨mode, t₂, h₂, h⟩ := run_bind_eq_ok.mp h
    obtain ⟨new₂, lead₂, along₂⟩ := (p.follows_validate (m := p.manner) t₁).ok h₂
    have hm := p.validate_ok h₂
    obtain ⟨_, t₃, h₃, h⟩ := run_bind_eq_ok.mp h
    obtain ⟨new₃, lead₃, along₃⟩ := (p.follows_credentials t₂).ok h₃
    have hp := p.credentials_ok h₃
    rw [if_pos hp] at along₃
    have files := p.files_of_logins ((lead₁.append lead₂).append lead₃)
      (by simp [along₁.quiet, along₂.quiet, along₃.whole rfl])
    obtain ⟨made, t₄, h₄, h⟩ := run_bind_eq_ok.mp h
    obtain ⟨_, t₅, -, h⟩ := run_bind_eq_ok.mp h
    cases h
    refine ⟨⟨ha.symm, by rw [hm]; rfl, hp⟩, ?_⟩
    simp only [requestIn, hm, ← files, p.resolveVersion_ok h₄]

/-- A run is skipped where the repository may not release, and nowhere else. -/
lemma early_none {y z : Publishing} (h : p.early.run y = (.ok none, z)) :
    repositoryAllowed p.repository p.settings.allowedRepository = false := by
  obtain ⟨allowed, t₁, h₁, h⟩ := run_bind_eq_ok.mp h
  cases allowed with
  | false => exact (p.authorize_ok h₁).symm
  | true =>
    rw [if_pos rfl] at h
    obtain ⟨_, _, -, h⟩ := run_bind_eq_ok.mp h
    obtain ⟨_, _, -, h⟩ := run_bind_eq_ok.mp h
    obtain ⟨_, _, -, h⟩ := run_bind_eq_ok.mp h
    obtain ⟨_, _, -, h⟩ := run_bind_eq_ok.mp h
    cases h

/-! ### Whole runs -/

def latePlan (s : Session) : List Move :=
  if p.Admitted then
    match p.requestIn s with
    | .ok request => p.lookupMoves request ++ [p.buildMove request]
    | .error _ => []
  else []

/-- Everything that a run is to move in a session. -/
def plan (s : Session) : List Move :=
  p.earlyPlan s ++ p.latePlan s

lemma latePlan_of_early {request : Request} {y z : Publishing}
    (h : p.early.run y = (.ok (some request), z)) :
    p.latePlan y.session = p.lookupMoves request ++ [p.buildMove request] := by
  obtain ⟨ha, hr⟩ := p.early_some h
  rw [latePlan, if_pos ha, hr]

lemma follows_stages (y : Publishing) :
    p.stages.FollowsFrom p.manner Publishing.session (p.plan y.session) y := by
  rw [stages_eq]
  refine (p.follows_early y).bind fun made t _ h _ _ => ?_
  cases made with
  | none =>
    rw [latePlan, if_neg fun ha => by simpa [p.early_none h] using ha.1]
    exact follows_pure _ t
  | some request =>
    rw [p.latePlan_of_early h]
    exact (p.follows_publishImage request t).before fun _ =>
      (follows_enter _).after fun _ => follows_pure _

/-- What a run does after its stages. -/
def closing (start : Float) (delivered : Bool) : Act Publishing JobResult := do
  if delivered then
    let time ← Act.ofExcept (wholeMilliseconds start (← now))
    let tag := (((← Act.state).progress.selection).map (·.tag)).getD ""
    banner ("[" ++ p.jobId ++ "] " ++ "Publish complete — " ++ tag ++ " in " ++ toString time ++
      "ms")
  return p.result (← Act.state).progress

def heading : String :=
  "[" ++ p.jobId ++ "] " ++ "Publish starting (mode=" ++ p.asked.literal ++ " dry_run=" ++
    (if p.dryRun then "True" else "False") ++ ")"

lemma run_eq : p.run = (do
    banner p.heading
    let start ← now
    let delivered ← p.stages.onFailure fun _ => enter .failed
    p.closing start delivered) := by
  unfold run closing heading
  rfl

lemma follows_closing {m : Manner} (start : Float) (delivered : Bool) :
    (p.closing start delivered).Follows m Publishing.session [] := by
  unfold closing
  split
  · refine follows_now.after fun _ => (follows_ofExcept _).after fun _ => ?_
    refine follows_state.after fun _ => ?_
    exact (follows_banner _).after fun _ => follows_state.after fun _ => follows_pure _
  · exact follows_state.after fun _ => follows_pure _

/-- **The plan of a run**: whatever the tools and the registry do, a run makes the moves that were
planned for it, in their order, and none after one that failed; it makes all of them if it
succeeds. -/
theorem follows_run (y : Publishing) :
    p.run.FollowsFrom p.manner Publishing.session (p.plan y.session) y := by
  rw [run_eq]
  refine FollowsFrom.after (follows_banner _ y) fun _ t new h lead quiet => ?_
  refine FollowsFrom.after (follows_now t) fun start t' _ hn _ _ => ?_
  cases hn
  refine FollowsFrom.before ?_ fun delivered => p.follows_closing _ delivered
  have same : p.plan t.session = p.plan y.session := by rw [lead.of_quiet quiet]; rfl
  rw [← same]
  exact (p.follows_stages t).onFailure fun _ => follows_enter _

/-- What a run puts into the journal. -/
def trace (x : Publishing) : List Event :=
  (p.run.run x).2.session.journal.drop x.session.journal.length

lemma trace_eq {x : Publishing} {new : List Event}
    (h : x.session.Leads p.manner new (p.run.run x).2.session) : p.trace x = new := by
  rw [trace, h.journal, List.drop_left]

lemma closing_sure {s : Session} {y : Publishing} {start : Float} (timely : s.Timely)
    (hs : s.MayShow start) (hy : s.MayShow y.session.clock) (delivered : Bool) :
    ((p.closing start delivered).run y).1.isOk = true := by
  unfold closing
  split
  · obtain ⟨n, hn⟩ := timely start y.session.clock hs hy
    have now_ok : now.run y = (.ok y.session.clock, y) := rfl
    rw [run_bind_of_ok now_ok, hn]
    rfl
  · rfl

/-- Where the clock is sound, the stages fail for no other reason than their moves, once there is
an image to make. -/
lemma thorough_stages {y : Publishing} (timely : y.session.Timely) {request : Request}
    (admitted : p.Admitted) (asked : p.requestIn y.session = .ok request) :
    p.stages.Thorough p.manner Publishing.session (p.plan y.session) y := by
  have late : p.latePlan y.session = p.lookupMoves request ++ [p.buildMove request] := by
    rw [latePlan, if_pos admitted, asked]
  rw [stages_eq]
  refine (p.follows_early y).thorough (by simp [late]) fun made t _ h lead _ => ?_
  cases made with
  | none => exact absurd admitted.1 (by simp [p.early_none h])
  | some made =>
    rw [p.latePlan_of_early h]
    refine (p.thorough_publishImage made (lead.timely timely)).before (fun _ => ?_)
      fun _ _ _ _ _ => rfl
    exact (follows_enter _).after fun _ => follows_pure _

/-- Where the clock is sound, a run that has an image to make fails for no other reason than its
moves. -/
lemma thorough_run {y : Publishing} (timely : y.session.Timely) {request : Request}
    (admitted : p.Admitted) (asked : p.requestIn y.session = .ok request) :
    p.run.Thorough p.manner Publishing.session (p.plan y.session) y := by
  have ne : p.plan y.session ≠ [] := by simp [plan, latePlan, admitted, asked]
  rw [run_eq]
  refine (follows_banner _ y).thorough_after ne fun _ t new h lead quiet => ?_
  refine (follows_now t).thorough_after ne fun start t' _ hn _ _ => ?_
  cases hn
  have still := lead.of_quiet quiet
  have same : p.plan t.session = p.plan y.session := by rw [still]; rfl
  have asked' : p.requestIn t.session = .ok request := by rw [still]; exact asked
  have timely' := lead.timely timely
  rw [← same]
  refine Thorough.before
    ((p.thorough_stages timely' admitted asked').onFailure fun _ => follows_enter _)
    (fun delivered => p.follows_closing _ delivered) fun delivered u _ _ lead' => ?_
  exact p.closing_sure timely' (mayShow_clock _) (lead'.mayShow (mayShow_clock _)) delivered

/-! ### How a run ends -/

/-- A publisher that has put its heading into the log. -/
def opened (y : Publishing) : Publishing :=
  ((banner p.heading).run y).2

lemma run_run (y : Publishing) :
    p.run.run y = ((p.stages.onFailure fun _ => enter .failed) >>=
      p.closing (p.opened y).session.clock).run (p.opened y) := by
  rw [run_eq]
  rfl

lemma timely_opened {y : Publishing} (h : y.session.Timely) : (p.opened y).session.Timely := h

lemma run_of_stages_error {y z : Publishing} {e : Failure}
    (h : p.stages.run (p.opened y) = (.error e, z)) :
    p.run.run y = (.error e, z.entered .failed) := by
  rw [run_run]
  exact run_bind_of_error (run_onFailure_of_error h)

lemma run_of_stages_ok {y z : Publishing} {delivered : Bool}
    (h : p.stages.run (p.opened y) = (.ok delivered, z)) :
    p.run.run y = (p.closing (p.opened y).session.clock delivered).run z := by
  rw [run_run]
  exact run_bind_of_ok (run_onFailure_of_ok h)

/-! ### The state at the end -/

lemma early_none_state {y z : Publishing} (h : p.early.run y = (.ok none, z)) :
    z.progress.state = .skipped := by
  have barred := p.early_none h
  obtain ⟨allowed, t, ha, h⟩ := run_bind_eq_ok.mp h
  rw [p.authorize_ok ha, barred] at h
  cases h
  obtain ⟨start, u, hs, ha⟩ := run_bind_eq_ok.mp ha
  cases hs
  dsimp only at ha
  rw [barred] at ha
  obtain ⟨_, _, he, ha⟩ := run_bind_eq_ok.mp ha
  cases he
  obtain ⟨_, _, hw, ha⟩ := run_bind_eq_ok.mp ha
  cases hw
  obtain ⟨_, _, hr, ha⟩ := run_bind_eq_ok.mp ha
  cases ha
  rw [run_recordStage] at hr
  split at hr <;> cases hr
  rfl

lemma closing_ok {start : Float} {delivered : Bool} {result : JobResult} {y z : Publishing}
    (h : (p.closing start delivered).run y = (.ok result, z)) :
    z.progress = y.progress ∧ result = p.result y.progress := by
  unfold closing at h
  split at h
  · obtain ⟨_, _, hn, h⟩ := run_bind_eq_ok.mp h
    cases hn
    obtain ⟨_, _, hw, h⟩ := run_bind_eq_ok.mp h
    rw [run_ofExcept, Prod.mk.injEq] at hw
    obtain ⟨-, rfl⟩ := hw
    cases h
    exact ⟨rfl, rfl⟩
  · cases h
    exact ⟨rfl, rfl⟩

lemma run_ok {result : JobResult} {y z : Publishing} (h : p.run.run y = (.ok result, z)) :
    result.state = .delivered ∧ p.Admitted ∧ (∃ request, p.requestIn y.session = .ok request) ∨
      result.state = .skipped ∧
        repositoryAllowed p.repository p.settings.allowedRepository = false := by
  rcases hs : p.stages.run (p.opened y) with ⟨e | delivered, u⟩
  · exact nomatch (p.run_of_stages_error hs).symm.trans h
  rw [p.run_of_stages_ok hs] at h
  obtain ⟨-, rfl⟩ := p.closing_ok h
  rw [stages_eq] at hs
  obtain ⟨made, v, he, hl⟩ := run_bind_eq_ok.mp hs
  cases made with
  | none =>
    cases hl
    exact .inr ⟨p.early_none_state he, p.early_none he⟩
  | some request =>
    obtain ⟨_, _, -, hl⟩ := run_bind_eq_ok.mp hl
    cases hl
    obtain ⟨admitted, asked⟩ := p.early_some he
    exact .inl ⟨rfl, admitted, request, asked⟩

end Publisher

/-! ### A release for example -/

/-- The usual settings, with two secrets and with registries to log in to. -/
def Settings.usual (secret password : String) (registries : List String) : Settings where
  aws := ⟨"key", secret, "us-east-2", registries⟩
  dockerHub := ⟨"user", password, Hub.usualUrl⟩
  image := ⟨usualImage, ".", "docker/spark/Dockerfile"⟩
  propertiesFile := "gradle.properties"
  versionKey := "djl_version"
  wheelDirectory := "extensions/spark/setup"
  allowedRepository := ""
  toolTimeout := 3600

/-- A publisher with the usual settings, started by hand. -/
def Publisher.usual (secret password : String) (registries : List String) : Publisher where
  asked := .mode .release
  settings := .usual secret password registries
  jobId := "0123456789ab"

/-- A session in which nothing takes any time, with a version to release. -/
def Session.still (script : List Ending) (reply : Reply) : Session where
  identifier := "0123456789ab"
  files.entries :=
    [(["gradle.properties"], .file (Text.Utf8.encode "djl_version=0.25.0\n".toList))]
  script := script.map fun ending => { ending }
  reply := reply

lemma Session.timely_still (script : List Ending) (reply : Reply) :
    (Session.still script reply).Timely := by
  refine timely_of_still rfl rfl fun o ho => ?_
  obtain ⟨ending, -, rfl⟩ := List.mem_map.mp ho
  rfl

end ImageRelease
