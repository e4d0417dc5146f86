import ImageRelease.Proofs.Release.Course
import ImageRelease.Proofs.Session.Enrolment

/-!
The list of values to mask over all uses of a runner.

A runner is made with some values, and then it may be used in any order and in any world: a value is
given to the mask, a command is run, someone logs in or builds with it, or a publisher runs with it
in place of its own. `Operation.perform_masks` says of one use what is masked by then, whichever way
it ends, and `Usage.of_secrets` follows for all uses in a row. So the list holds every value that
was ever given to the mask, unless it is empty, each of them once and in the order in which they
came, and it only grows at its end.
-/

namespace ImageRelease

open Session Act

/-! ### Publishers with a runner that is given -/

section Stages

variable {R : List Event → List Event → Prop}

lemma abides_inSession {α : Type} {x : Act Session α} (h : x.Abides R id) :
    (inSession x).Abides R Publishing.session :=
  fun y => h y.session

variable [Ongoing R]

lemma abides_update (f : Progress → Progress) : (update f).Abides R Publishing.session :=
  abides_of_still fun _ => rfl

lemma abides_now : now.Abides R Publishing.session :=
  abides_of_still fun _ => rfl

lemma abides_recordStage (stage : Stage) (start : Float) (status : StageStatus)
    (detail : String) : (recordStage stage start status detail).Abides R Publishing.session :=
  abides_now.bind fun _ => (abides_ofExcept _).bind fun _ => (abides_update _).bind fun _ =>
    abides_inSession (abides_info _)

lemma abides_staged {α : Type} (stage : Stage) (start : Float) (state : JobState)
    {body : Act Publishing α} (detail : α → String) (h : body.Abides R Publishing.session) :
    (staged stage start state body detail).Abides R Publishing.session :=
  Abides.bind (h.onFailure fun _ => abides_recordStage _ _ _ _) fun _ =>
    (abides_update _).bind fun _ => abides_recordStage _ _ _ _

namespace Publisher

variable (p : Publisher)

lemma abides_banner (text : String) : (banner text).Abides R Publishing.session :=
  (abides_inSession (abides_info _)).bind fun _ =>
    (abides_inSession (abides_info _)).bind fun _ => abides_inSession (abides_info _)

lemma abides_authorize : p.authorize.Abides R Publishing.session := by
  refine abides_now.bind fun start => ?_
  dsimp only
  split
  · exact (abides_update _).bind fun _ => (abides_recordStage _ _ _ _).bind fun _ => abides_pure _
  · exact (abides_update _).bind fun _ => (abides_update _).bind fun _ =>
      (abides_recordStage _ _ _ _).bind fun _ => abides_pure _

lemma abides_validate : p.validate.Abides R Publishing.session := by
  refine abides_now.bind fun start => Abides.bind (Abides.onFailure ?_ fun _ => ?_) fun mode => ?_
  · exact (abides_ofRejection _).bind fun mode => (abides_update _).bind fun _ => abides_pure _
  · exact abides_recordStage _ _ _ _
  · exact (abides_recordStage _ _ _ _).bind fun _ => abides_pure _

lemma abides_lookUpVersion (mode : Mode) (start : Float) :
    (p.lookUpVersion mode start).Abides R Publishing.session := by
  refine abides_state.bind fun y => ?_
  split
  · exact abides_pure _
  · split
    · exact (abides_recordStage _ _ _ _).bind fun _ => abides_fail _
    · exact abides_pure _
  · exact abides_fail _

lemma abides_resolveVersion (mode : Mode) :
    (p.resolveVersion mode).Abides R Publishing.session := by
  refine abides_now.bind fun start => (p.abides_lookUpVersion mode start).bind fun version => ?_
  have resolving : (resolving mode version start).Abides R Publishing.session :=
    (abides_ofRejection _).bind fun _ => (abides_update _).bind fun _ =>
      (abides_update _).bind fun _ => (abides_recordStage _ _ _ _).bind fun _ => abides_pure _
  split
  · split
    · exact (abides_recordStage _ _ _ _).bind fun _ => (abides_fail _).bind fun _ => resolving
    · exact (abides_update _).bind fun _ => resolving
  · exact resolving

lemma abides_closing (start : Float) (delivered : Bool) :
    (p.closing start delivered).Abides R Publishing.session := by
  unfold closing
  split
  · refine abides_now.bind fun _ => (abides_ofExcept _).bind fun _ => abides_state.bind fun _ => ?_
    exact (abides_banner _).bind fun _ => abides_state.bind fun _ => abides_pure _
  · exact abides_state.bind fun _ => abides_pure _

end Publisher

end Stages

/-- A lookup of tags that leaves runners alone. -/
structure TagLookup where
  exists? : String → String → Act Session Bool
  quiet : ∀ repository tag, (exists? repository tag).Abides (Enrols []) id

/-- The lookup in a registry. -/
def Hub.tagLookup (h : Hub) : TagLookup :=
  ⟨h.exists?, h.abides_exists?⟩

namespace Publisher

variable (p : Publisher) (e : Equipment)

lemma abides_credentials :
    (p.credentials e).Abides (Masks handedIn) Publishing.session := by
  refine abides_now.bind fun start => abides_staged _ _ _ _ ?_
  have logins : (do
      inSession e.docker.setupBuildx
      let hosts ← inSession (Ecr.login e.runner p.settings.aws p.settings.aws.registries)
      inSession (e.docker.login p.settings.dockerHub.username p.settings.dockerHub.password)
      return hosts : Act Publishing (List String)).Abides (Masks handedIn) Publishing.session := by
    refine (abides_inSession e.docker.abides_setupBuildx.handed).bind fun _ => ?_
    refine (abides_inSession (Ecr.abides_login _ _ _)).bind fun hosts => ?_
    refine Abides.bind (abides_inSession fun s => ?_) fun _ => abides_pure _
    exact (e.docker.enrols_login _ _ none s).handed
  split
  · exact (abides_ofRejection _).bind fun _ => logins
  · exact logins

lemma abides_buildWheel : (p.buildWheel e).Abides (Masks handedIn) Publishing.session := by
  refine abides_now.bind fun start => abides_state.bind fun y => abides_staged _ _ _ _ ?_
  exact (abides_inSession (WheelBuilder.abides_build _).handed).bind fun _ =>
    (abides_update _).bind fun _ => abides_pure _

lemma abides_checkUnreleased (lookup : TagLookup) (r : Runner) (selection : Selection) :
    (p.checkUnreleased selection ⟨r, lookup.exists?⟩).Abides (Enrols []) id := by
  unfold checkUnreleased
  split
  · exact abides_info _
  · refine (abides_ofExcept _).bind fun reference => (lookup.quiet _ _).bind fun known => ?_
    cases known
    · exact abides_pure _
    · exact abides_fail _

lemma abides_publishImage (lookup : TagLookup) (r : Runner) (request : Request) :
    (p.publishImage request ⟨r, lookup.exists?⟩).Abides (Masks handedIn)
      Publishing.session := by
  refine abides_now.bind fun start => abides_state.bind fun y => ?_
  refine (abides_ofExcept _).bind fun selection => ?_
  refine (abides_update _).bind fun _ => abides_staged _ _ _ _ ?_
  have building := abides_inSession (Docker.abides_build
    (Equipment.docker ⟨r, lookup.exists?⟩) (p.buildSpec request selection)).handed
  split
  · refine (abides_inSession (p.abides_checkUnreleased lookup r _).handed).bind fun _ => ?_
    exact building.bind fun _ => abides_pure _
  · exact building.bind fun _ => abides_pure _

/-- Whatever a run hands over to a command is masked, with any runner. -/
lemma abides_run (lookup : TagLookup) (r : Runner) :
    (p.run ⟨r, lookup.exists?⟩).Abides (Masks handedIn) Publishing.session := by
  refine (abides_banner _).bind fun _ => abides_now.bind fun start => ?_
  refine Abides.bind (Abides.onFailure ?_ fun _ => abides_update _) fun delivered => ?_
  · refine p.abides_authorize.bind fun allowed => ?_
    split
    · refine p.abides_validate.bind fun mode => (p.abides_credentials _).bind fun _ => ?_
      refine (p.abides_resolveVersion mode).bind fun request => ?_
      refine (p.abides_buildWheel _).bind fun _ => ?_
      refine (p.abides_publishImage lookup r request).bind fun _ => ?_
      exact (abides_update _).bind fun _ => abides_pure _
    · exact abides_pure _
  · exact p.abides_closing start delivered

end Publisher

/-! ### Uses of a runner -/

/-- What can be done with a runner. A publisher may run with it that has made some progress. -/
inductive Operation
  | addSecret (secret : String)
  | run (argv : List String) (cwd : Option String) (overrides : Env) (input : Option String)
  | setupBuildx (executable : String)
  | login (executable username password : String) (registry : Option String)
  | build (executable : String) (spec : BuildSpec)
  | loginToEcr (aws : Aws) (registries : List String)
  | buildWheel (directory : Path) (interpreter : String)
  | release (p : Publisher) (lookup : TagLookup) (progress : Progress)

namespace Operation

/-- Does it, whatever comes of it. -/
def perform (r : Runner) : Operation → Act Session Unit
  | addSecret secret => ImageRelease.addSecret secret
  | run argv cwd overrides input => do let _ ← r.run argv cwd overrides input
  | setupBuildx executable => Docker.setupBuildx ⟨r, executable⟩
  | login executable username password registry =>
    Docker.login ⟨r, executable⟩ username password registry
  | build executable spec => do let _ ← Docker.build ⟨r, executable⟩ spec
  | loginToEcr aws registries => do let _ ← Ecr.login r aws registries
  | buildWheel directory interpreter => do let _ ← WheelBuilder.build ⟨r, directory, interpreter⟩
  | release p lookup progress => do
    let _ ← (p.run ⟨r, lookup.exists?⟩).within (fun session => ⟨session, progress⟩)
      fun done _ => done.session

/-- The values that are given to the mask, by the events that came of it: the password of a login to
a registry, the tokens that a login to Amazon ECR fetches, and in a release both of them, each of
which is handed over to a command right after that. -/
def given (new : List Event) : Operation → List String
  | addSecret secret => [secret]
  | login _ _ password _ => [password]
  | loginToEcr .. => tokensOf new
  | release .. => handedIn new
  | run .. | setupBuildx .. | build .. | buildWheel .. => []

end Operation

namespace Operation

/-- What is masked after one use of a runner, whichever way it ends. -/
lemma perform_masks (o : Operation) (r : Runner) (s : Session) :
    Masks o.given s.journal ((o.perform r).run s).2.journal := by
  cases o with
  | addSecret secret =>
    rw [perform, run_addSecret_masking]
    exact ⟨masking s.journal secret, rfl, secretsOf_append_masking s.journal secret⟩
  | run argv cwd overrides input =>
    obtain ⟨new, journal, masked, -⟩ := r.journal_run argv cwd overrides input s
    rw [perform, run_bind_pure, journal]
    refine ⟨new, rfl, ?_⟩
    rw [secretsOf_append, masked, List.append_nil]
    rfl
  | setupBuildx executable => exact (Docker.abides_setupBuildx ⟨r, executable⟩ s).constant
  | login executable username password registry =>
    exact (Docker.enrols_login ⟨r, executable⟩ username password registry s).constant
  | build executable spec =>
    rw [perform, run_bind_pure]
    exact (Docker.abides_build ⟨r, executable⟩ spec s).constant
  | loginToEcr aws registries =>
    obtain ⟨new, journal, registered⟩ := Ecr.login_registers r aws registries s
    rw [perform, run_bind_pure, journal]
    refine ⟨new, rfl, ?_⟩
    rw [secretsOf_append]
    exact registered
  | buildWheel directory interpreter =>
    rw [perform, run_bind_pure]
    exact (WheelBuilder.abides_build ⟨r, directory, interpreter⟩ s).constant
  | release p lookup progress =>
    rw [perform, run_bind_pure, run_within]
    exact p.abides_run lookup r ⟨s, progress⟩

end Operation

/-- What has come of a runner: its session, and the values that were given to the mask so far. -/
structure Usage where
  session : Session
  given : List String

namespace Usage

def made (secrets : List String) : Usage :=
  ⟨((maskEach secrets).run { identifier := "" }).2, secrets⟩

def next (r : Runner) (u : Usage) (step : Operation × Session) : Usage :=
  let before := { step.2 with journal := u.session.journal }
  let after := ((step.1.perform r).run before).2
  ⟨after, u.given ++ step.1.given (after.journal.drop before.journal.length)⟩

/-- A runner that was made with some values and then used in some worlds, one after another. -/
def of (r : Runner) (secrets : List String) (steps : List (Operation × Session)) : Usage :=
  steps.foldl (next r) (made secrets)

end Usage

lemma secrets_maskEach (values : List String) (s : Session) :
    ((maskEach values).run s).2.secrets = values.foldl register s.secrets := by
  induction values generalizing s with
  | nil => rfl
  | cons value rest ih =>
    rw [maskEach, run_bind_of_ok (run_addSecret_masking value s), ih, secrets_eq,
      secretsOf_append_masking, List.foldl_cons, secrets_eq]

namespace Usage

variable (r : Runner) (secrets : List String)

lemma next_journal (u : Usage) (step : Operation × Session) :
    ∃ more, (u.next r step).session.journal = u.session.journal ++ more ∧
      (u.next r step).given = u.given ++ step.1.given more ∧
      (u.next r step).session.secrets =
        (step.1.given more).foldl register u.session.secrets := by
  obtain ⟨operation, world⟩ := step
  obtain ⟨more, journal, masked⟩ :=
    operation.perform_masks r { world with journal := u.session.journal }
  refine ⟨more, journal, ?_, masked⟩
  simp only [next, journal, List.drop_left]

lemma of_concat (steps : List (Operation × Session)) (step : Operation × Session) :
    of r secrets (steps ++ [step]) = (of r secrets steps).next r step :=
  List.foldl_concat ..

lemma of_isPrefix (earlier later : List (Operation × Session)) :
    (of r secrets earlier).session.journal <+:
      (of r secrets (earlier ++ later)).session.journal := by
  induction later using List.reverseRecOn with
  | nil => rw [List.append_nil]
  | append_singleton later step ih =>
    rw [← List.append_assoc, of_concat]
    obtain ⟨more, journal, -⟩ := (of r secrets (earlier ++ later)).next_journal r step
    rw [journal]
    exact ih.trans (List.prefix_append _ _)

/-- The list holds what was given to the mask, and nothing else. -/
lemma of_secrets (steps : List (Operation × Session)) :
    (of r secrets steps).session.secrets = (of r secrets steps).given.foldl register [] := by
  induction steps using List.reverseRecOn with
  | nil => exact secrets_maskEach secrets { identifier := "" }
  | append_singleton steps step ih =>
    obtain ⟨more, -, given, masked⟩ := (of r secrets steps).next_journal r step
    rw [of_concat, masked, given, List.foldl_append, ih]

end Usage

/-- **The list of values to mask**: whatever values a runner is made with, and however it is used
after that, in whatever worlds and with whatever failures, its list holds the values that were ever
given to the mask, apart from the empty one: each of them once, in the order in which they came. So
no value on it is empty, none is there twice, and none that was given is missing. The list only
grows at its end, as does the journal off which it is read at any moment, and no command changes
it. -/
theorem secret_list_kept (r : Runner) (secrets : List String)
    (steps : List (Operation × Session)) :
    let u := Usage.of r secrets steps
    let known := u.session.secrets
    known = (u.given.filter fun value => value ≠ "").eraseDups ∧
      "" ∉ known ∧ known.Nodup ∧
      (∀ value ∈ u.given, value ≠ "" → value ∈ known) ∧
      (∀ earlier later, steps = earlier ++ later →
        (Usage.of r secrets earlier).session.journal <+: u.session.journal ∧
          (Usage.of r secrets earlier).session.secrets <+: known) ∧
      ∀ argv cwd overrides input (s : Session),
        ((r.run argv cwd overrides input).run s).2.secrets = s.secrets := by
  intro u known
  have listed : known = u.given.foldl register [] := Usage.of_secrets r secrets steps
  have orderly : Orderly known := by
    rw [listed]
    exact orderly_nil.foldl_register u.given
  refine ⟨?_, orderly.filled, orderly.once, fun value given filled => ?_,
    fun earlier later parts => ?_, r.secrets_run⟩
  · rw [listed, foldl_register]
    simp
  · rw [listed]
    exact mem_foldl_register [] given filled
  · have grown := Usage.of_isPrefix r secrets earlier later
    rw [← parts] at grown
    exact ⟨grown, grown.filterMap Event.secret?⟩

/-- Two logins that fail, one of them in a release and after it has fetched a token. -/
theorem secret_list_kept_failing :
    let r : Runner := {}
    let p := Publisher.usual "Zq8" "Qx9" ["1"]
    let denying : Session := .still [.exited 1 "" "denied"] (.response {})
    let complaining : Session :=
      .still [.exited 0 "" "", .exited 0 "tok\n" "", .exited 1 "" "denied"] (.response {})
    let earlier : List (Operation × Session) :=
      [(.addSecret "pw", denying), (.login "docker" "user" "Qx9" none, denying)]
    let later : List (Operation × Session) :=
      [(.release p p.hub.tagLookup {}, complaining), (.addSecret "last", denying)]
    let u := Usage.of r ["pw", ""] (earlier ++ later)
    "tok" ∈ u.given ∧ "tok" ∈ u.session.secrets ∧
      (Usage.of r ["pw", ""] earlier).session.secrets <+: u.session.secrets ∧
      u.session.secrets = ["pw", "Qx9", "tok", "last"] := by
  intro r p denying complaining earlier later u
  have given : u.given = ["pw", "", "pw", "Qx9", "tok", "last"] := by decide +kernel
  obtain ⟨listed, -, -, complete, grows, -⟩ := secret_list_kept r ["pw", ""] (earlier ++ later)
  have fetched : "tok" ∈ u.given := by
    rw [given]
    decide
  refine ⟨fetched, complete "tok" fetched (by decide), (grows earlier later rfl).2, ?_⟩
  rw [listed]
  change (u.given.filter _).eraseDups = _
  rw [given]
  decide

end ImageRelease
