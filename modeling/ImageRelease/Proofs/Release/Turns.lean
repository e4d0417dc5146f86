import ImageRelease.Proofs.Release.Course

/-!
A run, turn by turn.

A turn is a stage together with what the stages before it have found. `Goes` says everything that a
turn can do when it succeeds: what it makes of the progress, and what comes next. The stages of a
run are turns that are taken one after another: `Comes` says which turns a run comes to, and in what
state, and by `stages_end` it ends with the last turn or with the first one that fails.
-/

namespace ImageRelease

open Session Act

def Stage.all : List Stage :=
  [.authorize, .validate, .credentials, .resolveVersion, .buildWheel, .publishImage]

def Stage.before (s : Stage) : List Stage :=
  Stage.all.takeWhile (· != s)

lemma Stage.before_lt (s : Stage) : s.before.length < Stage.all.length := by
  cases s <;> decide

/-- What a run has to do next. -/
inductive Turn
  | authorize
  | validate
  | credentials (mode : Mode)
  | resolveVersion (mode : Mode)
  | buildWheel (request : Request)
  | publishImage (request : Request)

def Turn.stage : Turn → Stage
  | authorize => .authorize
  | validate => .validate
  | credentials _ => .credentials
  | resolveVersion _ => .resolveVersion
  | buildWheel _ => .buildWheel
  | publishImage _ => .publishImage

/-- What comes after a turn: another one, or the end of the run, delivered or not. -/
inductive Next
  | turn (t : Turn)
  | finish (delivered : Bool)

/-- An action that leaves the progress as it is. -/
def Act.Keeps {α : Type} (x : Act Publishing α) : Prop :=
  ∀ y, (x.run y).2.progress = y.progress

lemma Act.Keeps.eq {α : Type} {x : Act Publishing α} (hx : x.Keeps) {r : Except Failure α}
    {y z : Publishing} (h : x.run y = (r, z)) : z.progress = y.progress := by
  have kept := hx y
  rwa [h] at kept

lemma keeps_pure {α : Type} (a : α) : (pure a : Act Publishing α).Keeps := fun _ => rfl

lemma keeps_inSession {α : Type} (x : Act Session α) : (inSession x).Keeps := fun _ => rfl

lemma keeps_ofRejection {α : Type} (r : Except Rejection α) :
    (Act.ofRejection r : Act Publishing α).Keeps := fun y => by rw [run_ofRejection]

lemma Act.Keeps.bind {α β : Type} {x : Act Publishing α} {f : α → Act Publishing β}
    (hx : x.Keeps) (hf : ∀ a, (f a).Keeps) : (x >>= f).Keeps := fun y => by
  rcases run_bind_cases x f y with ⟨e, z, h, hb⟩ | ⟨a, z, h, hb⟩
  · rw [hb]
    exact hx.eq h
  · rw [hb, hf a z]
    exact hx.eq h

def Progress.timed (g : Progress) (t : StageTiming) : Progress :=
  { g with timings := g.timings ++ [t] }

namespace Publisher

variable (p : Publisher)

/-- One turn of a run. -/
def take : Turn → Act Publishing Next
  | .authorize => do
    if ← p.authorize then return .turn .validate
    return .finish false
  | .validate => do
    let mode ← p.validate
    return .turn (.credentials mode)
  | .credentials mode => do
    p.credentials
    return .turn (.resolveVersion mode)
  | .resolveVersion mode => do
    let request ← p.resolveVersion mode
    return .turn (.buildWheel request)
  | .buildWheel request => do
    p.buildWheel
    return .turn (.publishImage request)
  | .publishImage request => do
    p.publishImage request
    enter .delivered
    return .finish true

/-! ### Turns that succeed -/

def skipWarning : String :=
  "Repository " ++ p.repository ++ " is not " ++ p.settings.allowedRepository ++
    "; nothing published."

def versionWarning : String :=
  p.settings.versionKey ++ " not found; nightly image is built without a version."

/-- What a turn that succeeds makes of the progress, and what comes next. -/
inductive Goes (y : Publishing) : Turn → Next → Progress → Prop
  | authorized (time : Int)
      (allowed : repositoryAllowed p.repository p.settings.allowedRepository = true) :
      Goes y .authorize (.turn .validate)
        ({ y.progress with state := .authorized }.timed ⟨.authorize, time, .ok, ""⟩)
  | skipped (time : Int)
      (barred : repositoryAllowed p.repository p.settings.allowedRepository = false) :
      Goes y .authorize (.finish false)
        ({ y.progress with
            state := .skipped
            warnings := y.progress.warnings ++ [p.skipWarning] }.timed
          ⟨.authorize, time, .skipped, p.repository⟩)
  | validated {mode : Mode} (time : Int) (asked : Mode.parse p.asked = .ok mode) :
      Goes y .validate (.turn (.credentials mode))
        ({ y.progress with mode := some mode }.timed ⟨.validate, time, .ok, "mode=" ++ mode.name⟩)
  | loggedIn (mode : Mode) (time : Int) (detail : String) (provided : p.Provided) :
      Goes y (.credentials mode) (.turn (.resolveVersion mode))
        ({ y.progress with state := .credentialsConfigured }.timed
          ⟨.credentials, time, .ok, detail⟩)
  | resolved {mode : Mode} {version : Option String} {request : Request} (time : Int)
      (found : p.versionFrom mode y.session.files = .ok version)
      (made : p.requestFrom mode y.session.files = .ok request) :
      Goes y (.resolveVersion mode) (.turn (.buildWheel request))
        ({ y.progress with
            state := .versionResolved
            request := some request
            warnings := y.progress.warnings ++
              if version.isNone then [p.versionWarning] else [] }.timed
          ⟨.resolveVersion, time, .ok, version.getD "-"⟩)
  | built (request : Request) {artifacts : List Artifact} (time : Int) (detail : String)
      (made : ((p.wheelBuilder y.session.interpreter).build.run y.session).1 = .ok artifacts) :
      Goes y (.buildWheel request) (.turn (.publishImage request))
        ({ y.progress with state := .wheelBuilt, artifacts }.timed ⟨.buildWheel, time, .ok, detail⟩)
  | published (request : Request) (time : Int)
      (unicode : Text.IsUnicode (p.selection request).tag y.session.files.places) :
      Goes y (.publishImage request) (.finish true)
        ({ y.progress with state := .delivered, selection := some (p.selection request) }.timed
          ⟨.publishImage, time, .ok, (p.selection request).tag⟩)

lemma recordStage_ok {stage : Stage} {start : Float} {status : StageStatus} {detail : String}
    {u : Unit} {y z : Publishing} (h : (recordStage stage start status detail).run y = (.ok u, z)) :
    ∃ time, z.progress = y.progress.timed ⟨stage, time, status, detail⟩ := by
  rw [run_recordStage] at h
  split at h
  · case h_1 time _ => cases h; exact ⟨time, rfl⟩
  · cases h

lemma enter_ok {state : JobState} {u : Unit} {y z : Publishing}
    (h : (enter state).run y = (.ok u, z)) : z.progress = { y.progress with state } := by
  cases h
  rfl

lemma staged_ok {α : Type} {stage : Stage} {start : Float} {state : JobState}
    {body : Act Publishing α} {detail : α → String} {u : Unit} {y z : Publishing}
    (h : (staged stage start state body detail).run y = (.ok u, z)) :
    ∃ a t time, body.run y = (.ok a, t) ∧
      z.progress = { t.progress with state }.timed ⟨stage, time, .ok, detail a⟩ := by
  obtain ⟨a, t, hb, h⟩ := run_bind_eq_ok.mp h
  obtain ⟨_, v, he, hr⟩ := run_bind_eq_ok.mp h
  obtain ⟨time, hz⟩ := recordStage_ok hr
  exact ⟨a, t, time, run_onFailure_eq_ok.mp hb, by rw [hz, enter_ok he]⟩

lemma goes_authorize {next : Next} {y z : Publishing}
    (h : (p.take .authorize).run y = (.ok next, z)) :
    p.Goes y .authorize next z.progress := by
  obtain ⟨allowed, t, ha, h⟩ := run_bind_eq_ok.mp h
  have settled := p.authorize_ok ha
  obtain ⟨start, u, hs, ha⟩ := run_bind_eq_ok.mp ha
  cases hs
  dsimp only at ha
  cases allowed with
  | true =>
    cases h
    rw [← settled, if_pos rfl] at ha
    obtain ⟨_, _, he, ha⟩ := run_bind_eq_ok.mp ha
    cases he
    obtain ⟨_, _, hr, ha⟩ := run_bind_eq_ok.mp ha
    cases ha
    obtain ⟨time, hz⟩ := recordStage_ok hr
    rw [hz]
    exact .authorized time settled.symm
  | false =>
    cases h
    rw [← settled, if_neg Bool.false_ne_true] at ha
    obtain ⟨_, _, he, ha⟩ := run_bind_eq_ok.mp ha
    cases he
    obtain ⟨_, _, hw, ha⟩ := run_bind_eq_ok.mp ha
    cases hw
    obtain ⟨_, _, hr, ha⟩ := run_bind_eq_ok.mp ha
    cases ha
    obtain ⟨time, hz⟩ := recordStage_ok hr
    rw [hz]
    exact .skipped time settled.symm

lemma goes_validate {next : Next} {y z : Publishing}
    (h : (p.take .validate).run y = (.ok next, z)) :
    p.Goes y .validate next z.progress := by
  obtain ⟨mode, t, hv, h⟩ := run_bind_eq_ok.mp h
  cases h
  have asked := p.validate_ok hv
  obtain ⟨start, u, hs, hv⟩ := run_bind_eq_ok.mp hv
  cases hs
  obtain ⟨parsed, u, hp, hv⟩ := run_bind_eq_ok.mp hv
  obtain ⟨_, _, hr, hv⟩ := run_bind_eq_ok.mp hv
  cases hv
  have hp := run_onFailure_eq_ok.mp hp
  rw [asked] at hp
  cases hp
  obtain ⟨time, hz⟩ := recordStage_ok hr
  rw [hz]
  exact .validated time asked

lemma keeps_checkedLogins : p.checkedLogins.Keeps := by
  have logins : p.loggingIn.Keeps :=
    (keeps_inSession _).bind fun _ => (keeps_inSession _).bind fun _ =>
      (keeps_inSession _).bind fun _ => keeps_pure _
  unfold checkedLogins
  split
  · exact (keeps_ofRejection _).bind fun _ => logins
  · exact logins

lemma keeps_making (request : Request) : (p.making request).Keeps := by
  unfold making
  split
  · exact (keeps_inSession _).bind fun _ => (keeps_inSession _).bind fun _ => keeps_pure _
  · exact (keeps_inSession _).bind fun _ => keeps_pure _

lemma goes_credentials {mode : Mode} {next : Next} {y z : Publishing}
    (h : (p.take (.credentials mode)).run y = (.ok next, z)) :
    p.Goes y (.credentials mode) next z.progress := by
  obtain ⟨_, t, hc, h⟩ := run_bind_eq_ok.mp h
  cases h
  have provided := p.credentials_ok hc
  rw [credentials_eq] at hc
  obtain ⟨start, u, hs, hc⟩ := run_bind_eq_ok.mp hc
  cases hs
  obtain ⟨hosts, u, time, hl, hz⟩ := staged_ok hc
  rw [hz, p.keeps_checkedLogins.eq hl]
  exact .loggedIn mode time _ provided

lemma resolving_progress {mode : Mode} {version : Option String} {start : Float}
    {request : Request} {y z : Publishing}
    (h : (resolving mode version start).run y = (.ok request, z)) :
    ∃ time, z.progress =
      { y.progress with state := .versionResolved, request := some request }.timed
        ⟨.resolveVersion, time, .ok, version.getD "-"⟩ := by
  obtain ⟨made, t, hm, h⟩ := run_bind_eq_ok.mp h
  rw [run_ofRejection, Prod.mk.injEq] at hm
  obtain ⟨_, _, hu, h⟩ := run_bind_eq_ok.mp h
  cases hu
  obtain ⟨_, _, he, h⟩ := run_bind_eq_ok.mp h
  obtain ⟨_, _, hr, h⟩ := run_bind_eq_ok.mp h
  cases h
  obtain ⟨time, hz⟩ := recordStage_ok hr
  exact ⟨time, by rw [hz, enter_ok he, hm.2]⟩

lemma goes_resolveVersion {mode : Mode} {next : Next} {y z : Publishing}
    (h : (p.take (.resolveVersion mode)).run y = (.ok next, z)) :
    p.Goes y (.resolveVersion mode) next z.progress := by
  obtain ⟨request, t, hr, h⟩ := run_bind_eq_ok.mp h
  cases h
  have made := p.resolveVersion_ok hr
  obtain ⟨start, u, hs, hr⟩ := run_bind_eq_ok.mp hr
  cases hs
  obtain ⟨version, u, hv, hr⟩ := run_bind_eq_ok.mp hr
  obtain ⟨found, rfl⟩ := p.lookUpVersion_ok hv
  have resolved (time : Int) := Goes.resolved (y := u) time found made
  dsimp only at hr
  split at hr
  · case isTrue none =>
    split at hr
    · obtain ⟨_, _, -, hr⟩ := run_bind_eq_ok.mp hr
      obtain ⟨_, _, hf, -⟩ := run_bind_eq_ok.mp hr
      cases hf
    · obtain ⟨_, _, hw, hr⟩ := run_bind_eq_ok.mp hr
      cases hw
      obtain ⟨time, hz⟩ := resolving_progress hr
      rw [if_pos none] at resolved
      rw [hz]
      exact resolved time
  · case isFalse some =>
    obtain ⟨time, hz⟩ := resolving_progress hr
    rw [if_neg some, List.append_nil] at resolved
    rw [hz]
    exact resolved time

lemma goes_buildWheel {request : Request} {next : Next} {y z : Publishing}
    (h : (p.take (.buildWheel request)).run y = (.ok next, z)) :
    p.Goes y (.buildWheel request) next z.progress := by
  obtain ⟨_, t, hw, h⟩ := run_bind_eq_ok.mp h
  cases h
  rw [buildWheel_eq] at hw
  obtain ⟨start, u, hs, hw⟩ := run_bind_eq_ok.mp hw
  cases hs
  obtain ⟨s, u, hs, hw⟩ := run_bind_eq_ok.mp hw
  cases hs
  obtain ⟨artifacts, u, time, hb, hz⟩ := staged_ok hw
  obtain ⟨wheels, v, hi, hb⟩ := run_bind_eq_ok.mp hb
  obtain ⟨_, _, hu, hb⟩ := run_bind_eq_ok.mp hb
  cases hu
  cases hb
  have goes := Goes.built (p := p) (y := y) request time
    (toString artifacts.length ++ " wheel(s)") (congrArg Prod.fst hi)
  rw [← (keeps_inSession _).eq hi] at goes
  rw [hz]
  exact goes

lemma goes_publishImage {request : Request} {next : Next} {y z : Publishing}
    (h : (p.take (.publishImage request)).run y = (.ok next, z)) :
    p.Goes y (.publishImage request) next z.progress := by
  obtain ⟨_, t, hp, h⟩ := run_bind_eq_ok.mp h
  obtain ⟨_, u, hd, h⟩ := run_bind_eq_ok.mp h
  cases h
  rw [publishImage_eq] at hp
  obtain ⟨start, v, hs, hp⟩ := run_bind_eq_ok.mp hp
  cases hs
  obtain ⟨_, v, hx, hp⟩ := run_bind_eq_ok.mp hp
  rw [run_selecting] at hx
  obtain ⟨selected, rfl⟩ := Prod.mk.inj hx
  obtain ⟨rfl, unicode⟩ := Request.selection_eq_ok.mp selected
  obtain ⟨_, v, hu, hp⟩ := run_bind_eq_ok.mp hp
  cases hu
  obtain ⟨_, v, time, hm, hz⟩ := staged_ok hp
  rw [enter_ok hd, hz, (p.keeps_making request).eq hm]
  exact .published request time unicode

/-- **What a turn does** when it succeeds. -/
theorem goes_of_take {t : Turn} {next : Next} {y z : Publishing}
    (h : (p.take t).run y = (.ok next, z)) :
    p.Goes y t next z.progress := by
  cases t with
  | authorize => exact p.goes_authorize h
  | validate => exact p.goes_validate h
  | credentials mode => exact p.goes_credentials h
  | resolveVersion mode => exact p.goes_resolveVersion h
  | buildWheel request => exact p.goes_buildWheel h
  | publishImage request => exact p.goes_publishImage h

/-! ### Turn after turn -/

/-- At most so many turns, from one on. -/
def turns : Nat → Turn → Act Publishing Bool
  | 0, _ => return false
  | n + 1, t => do
    match ← p.take t with
    | .turn t' => turns n t'
    | .finish delivered => return delivered

lemma stages_eq_turns : p.stages = p.turns 6 .authorize := by
  simp only [turns, take, bind_assoc]
  unfold stages
  congr 1
  funext allowed
  cases allowed <;> simp

/-- The turns that a run comes to, and the states in which they are taken. -/
inductive Comes (x : Publishing) : Turn → Publishing → Prop
  | start : Comes x .authorize x
  | next {t t' : Turn} {y z : Publishing} (h : Comes x t y)
      (took : (p.take t).run y = (.ok (.turn t'), z)) : Comes x t' z

/-- How the turns of a run end: with the last one, or with one that fails. -/
inductive EndsWith (x : Publishing) : Except Failure Bool × Publishing → Prop
  | finished {t : Turn} {y z : Publishing} {delivered : Bool} (h : p.Comes x t y)
      (took : (p.take t).run y = (.ok (.finish delivered), z)) : EndsWith x (.ok delivered, z)
  | failed {t : Turn} {y z : Publishing} {e : Failure} (h : p.Comes x t y)
      (took : (p.take t).run y = (.error e, z)) : EndsWith x (.error e, z)

/-- What a turn counts on: the mode that is asked for, and the request that the session gives. -/
def Found (s : Session) : Turn → Prop
  | .authorize | .validate => True
  | .credentials mode | .resolveVersion mode => Mode.parse p.asked = .ok mode
  | .buildWheel request | .publishImage request => p.requestIn s = .ok request

def movesBefore (s : Session) : Turn → List Move
  | .authorize | .validate | .credentials _ => []
  | .resolveVersion _ | .buildWheel _ => p.loginMoves
  | .publishImage _ => p.loginMoves ++ [p.wheelMove s.interpreter]

def movesIn (s : Session) : Turn → List Move
  | .authorize | .validate | .resolveVersion _ => []
  | .credentials _ => if p.Provided then p.loginMoves else []
  | .buildWheel _ => [p.wheelMove s.interpreter]
  | .publishImage request => p.lookupMoves request ++ [p.buildMove request]

lemma follows_take (t : Turn) (y : Publishing) :
    (p.take t).FollowsFrom p.manner Publishing.session (p.movesIn y.session t) y := by
  cases t with
  | authorize =>
    refine (p.follows_authorize y).before fun allowed => ?_
    cases allowed <;> exact follows_pure _
  | validate => exact (p.follows_validate y).before fun _ => follows_pure _
  | credentials mode => exact (p.follows_credentials y).before fun _ => follows_pure _
  | resolveVersion mode => exact (p.follows_resolveVersion mode y).before fun _ => follows_pure _
  | buildWheel request => exact (p.follows_buildWheel y).before fun _ => follows_pure _
  | publishImage request =>
    exact (p.follows_publishImage request y).before fun _ =>
      (follows_enter _).after fun _ => follows_pure _

variable {p}

lemma before_of_take {t t' : Turn} {y z : Publishing}
    (h : (p.take t).run y = (.ok (.turn t'), z)) :
    t'.stage.before = t.stage.before ++ [t.stage] := by
  have goes := p.goes_of_take h
  generalize z.progress = g at goes
  cases goes <;> rfl

lemma Comes.endsWith {x y : Publishing} {t : Turn} {n : Nat} (h : p.Comes x t y)
    (enough : Stage.all.length ≤ t.stage.before.length + n) :
    p.EndsWith x ((p.turns n t).run y) := by
  induction n generalizing t y with
  | zero => exact absurd enough (by have := Stage.before_lt t.stage; omega)
  | succ n ih =>
    unfold turns
    rcases run_bind_cases (p.take t) _ y with ⟨e, z, took, hb⟩ | ⟨next, z, took, hb⟩
    · rw [hb]
      exact .failed h took
    · rw [hb]
      cases next with
      | turn t' =>
        refine ih (.next h took) ?_
        rw [before_of_take took, List.length_append, List.length_singleton]
        omega
      | finish delivered => exact .finished h took

/-- The stages of a run end with the last turn, or with the first one that fails. -/
lemma stages_end (x : Publishing) : p.EndsWith x (p.stages.run x) := by
  rw [stages_eq_turns]
  exact Comes.endsWith .start (by decide)

/-- What a turn counts on is there when a run comes to it, and what comes before it was moved. -/
lemma Comes.moved {x y : Publishing} {t : Turn} (h : p.Comes x t y) :
    p.Found x.session t ∧ ∃ new, x.session.Leads p.manner new y.session ∧
      movesOf new = p.movesBefore x.session t := by
  induction h with
  | start => exact ⟨trivial, [], .nil _, rfl⟩
  | @next t t' y z _ took ih =>
    obtain ⟨found, old, lead, moves⟩ := ih
    obtain ⟨new, lead', along⟩ := (p.follows_take t y).ok took
    have goes := p.goes_of_take took
    generalize z.progress = g at goes
    refine ⟨?_, old ++ new, lead.append lead', ?_⟩
    · cases goes with
      | authorized => trivial
      | validated _ asked => exact asked
      | loggedIn => exact found
      | @resolved mode _ request _ _ made =>
        have asked : Mode.parse p.asked = .ok mode := found
        change p.requestIn x.session = .ok request
        simp only [requestIn, asked, ← p.files_of_logins lead moves, made]
      | built => exact found
    · rw [movesOf_append, moves, along.whole rfl]
      cases goes with
      | authorized => rfl
      | validated => rfl
      | loggedIn _ _ _ provided => exact if_pos provided
      | resolved => exact List.append_nil _
      | built => simp only [movesBefore, movesIn, lead.interpreter]

end Publisher

end ImageRelease
