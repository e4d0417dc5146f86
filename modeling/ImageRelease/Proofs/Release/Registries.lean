import ImageRelease.Proofs.CommaList
import ImageRelease.Proofs.Release.FailFast
import ImageRelease.Proofs.Release.OneVersion

/-!
The registries that a run logs in to.

The registries stand in one variable, in a list with commas. Once the logins are on record as done,
everything that comes before the next stage was moved, and so each field of that variable that is
not blank was logged in to, once and in its place: `registry_logins` says so, and which texts a list
is read from.
-/

namespace ImageRelease

open Session Act

/-! ### Stages that fail -/

/-- A stage that fails, and whose body keeps the progress, has no success on record. -/
lemma staged_failed {α : Type} {stage : Stage} {start : Float} {state : JobState}
    {body : Act Publishing α} {detail : α → String} {e : Failure} {y z : Publishing}
    (keeps : body.Keeps) (h : (staged stage start state body detail).run y = (.error e, z)) :
    ∃ more, z.progress.timings = y.progress.timings ++ more ∧ ∀ t ∈ more, t.status = .failed := by
  rcases hb : body.run y with ⟨_ | a, u⟩
  · have same := keeps.eq hb
    have failed : (recordingFailure stage start body).run y = _ := run_onFailure_of_error hb
    rw [run_recordStage] at failed
    cases told : wholeMilliseconds start u.session.clock with
    | ok time =>
      rw [told] at failed
      rw [staged, run_bind_of_error failed] at h
      cases h
      exact ⟨[⟨stage, time, .failed, e.message⟩], by rw [← same]; rfl, by simp⟩
    | error other =>
      rw [told] at failed
      rw [staged, run_bind_of_error failed] at h
      cases h
      exact ⟨[], by rw [same, List.append_nil], nofun⟩
  · have same := keeps.eq hb
    have passed : (recordingFailure stage start body).run y = _ := run_onFailure_of_ok hb
    have entered : (enter state).run u = (.ok (), u.entered state) := rfl
    rw [staged, run_bind_of_ok passed, run_bind_of_ok entered, run_recordStage] at h
    split at h
    · cases h
    · cases h
      exact ⟨[], by rw [← same, List.append_nil]; rfl, nofun⟩

namespace Publisher

variable {p : Publisher} {x y z : Publishing} {t : Turn} {r : Except Failure Next}

lemma records_take (t : Turn) : (p.take t).Records [t.stage] := by
  have own : t.stage ∈ [t.stage] := List.mem_singleton_self _
  cases t with
  | authorize =>
    exact (p.records_authorize own).bind fun allowed => by cases allowed <;> exact records_pure _
  | validate => exact (p.records_validate own).bind fun _ => records_pure _
  | credentials mode => exact (p.records_credentials own).bind fun _ => records_pure _
  | resolveVersion mode => exact (p.records_resolveVersion own mode).bind fun _ => records_pure _
  | buildWheel request => exact (p.records_buildWheel own).bind fun _ => records_pure _
  | publishImage request =>
    have image : (p.publishImage request).Records [Stage.publishImage] := by
      rw [publishImage_eq]
      refine records_now.bind fun start => ?_
      refine Act.Records.bind (records_of_same fun y => by rw [run_selecting]) fun _ => ?_
      refine (records_update (by intro _; rfl)).bind fun _ => ?_
      exact records_staged own _ _ _ (records_of_same fun y => by rw [p.keeps_making request y])
    exact image.bind fun _ => (records_enter _).bind fun _ => records_pure _

lemma status_of_last {mode : Mode} (took : (p.take (.credentials mode)).run y = (r, z))
    (last : ∀ t', r ≠ .ok (.turn t')) :
    ∃ more, z.progress.timings = y.progress.timings ++ more ∧ ∀ t ∈ more, t.status = .failed := by
  rcases r with e | next
  · have failed : p.credentials.run y = (.error e, z) := run_error_of_sure (fun _ _ _ => rfl) took
    rw [credentials_eq, run_bind_of_ok (x := now) rfl] at failed
    exact staged_failed p.keeps_checkedLogins failed
  · have goes := p.goes_of_take took
    generalize z.progress = g at goes
    cases goes
    exact absurd rfl (last _)

lemma loginMoves_isPrefix_before (p : Publisher) (s : Session) (t : Turn)
    (before : (.credentials, .ok) ∈ Stage.passed t.stage.before) :
    p.loginMoves <+: p.movesBefore s t := by
  cases t with
  | authorize => exact absurd before (by decide)
  | validate => exact absurd before (by decide)
  | credentials mode =>
    have none : (Stage.credentials, StageStatus.ok) ∉ Stage.passed Stage.credentials.before := by
      decide
    exact absurd before none
  | resolveVersion mode => exact List.prefix_rfl
  | buildWheel request => exact List.prefix_rfl
  | publishImage request => exact List.prefix_append _ _

lemma mark_of_last {more : List StageTiming} (took : (p.take t).run y = (r, z))
    (last : ∀ t', r ≠ .ok (.turn t')) (added : z.progress.timings = y.progress.timings ++ more)
    (own : ∀ timing ∈ more, timing.stage ∈ [t.stage]) :
    (.credentials, .ok) ∉ more.map StageTiming.mark := by
  intro mark
  obtain ⟨timing, ht, mark⟩ := List.mem_map.mp mark
  obtain ⟨stage, status⟩ := Prod.mk.inj mark
  have turn := stage.symm.trans (List.mem_singleton.mp (own timing ht))
  -- Only the turn of the logins has their mark, and it is not the last one if it is done.
  cases t with
  | credentials mode =>
    obtain ⟨failed, added', all⟩ := status_of_last took last
    obtain rfl := List.append_cancel_left (added.symm.trans added')
    exact absurd (status.symm.trans (all timing ht)) (by decide)
  | _ => cases turn

/-- Where the logins are on record as done, the last turn came after them. -/
lemma Comes.after_logins (h : p.Comes (p.opened x) t y) (took : (p.take t).run y = (r, z))
    (last : ∀ t', r ≠ .ok (.turn t'))
    (mark : (.credentials, .ok) ∈ x.progress.marksSince z.progress) :
    p.loginMoves <+: p.movesBefore x.session t := by
  obtain ⟨⟨old, timings, passed⟩, -, -⟩ := h.passed
  obtain ⟨more, added, own⟩ := records_take t y
  have opened : (p.opened x).progress = x.progress := rfl
  rw [took] at added
  have marks : x.progress.marksSince z.progress =
      Stage.passed t.stage.before ++ more.map StageTiming.mark := by
    rw [Progress.marksSince, added, timings, opened, List.append_assoc, List.drop_left,
      List.map_append, passed]
  rw [marks, List.mem_append] at mark
  rcases mark with before | now
  · exact p.loginMoves_isPrefix_before x.session t before
  · exact absurd now (mark_of_last took last added own)

/-! ### What a run has moved -/

lemma leads_turns (n : Nat) (t : Turn) (y : Publishing) :
    ∃ new, y.session.Leads p.manner new ((p.turns n t).run y).2.session := by
  induction n generalizing t y with
  | zero => exact ⟨[], .nil _⟩
  | succ n ih =>
    obtain ⟨new, lead, -⟩ := p.follows_take t y
    rw [turns]
    rcases run_bind_cases (p.take t) _ y with ⟨e, z, took, hb⟩ | ⟨next, z, took, hb⟩
    · rw [took] at lead
      rw [hb]
      exact ⟨new, lead⟩
    · rw [took] at lead
      rw [hb]
      cases next with
      | turn t' =>
        obtain ⟨more, lead'⟩ := ih t' z
        exact ⟨new ++ more, lead.append lead'⟩
      | finish delivered => exact ⟨new, lead⟩

lemma leads_end (x : Publishing) : ∃ new,
    (p.stages.run (p.opened x)).2.session.Leads p.manner new (p.run.run x).2.session := by
  rcases hs : p.stages.run (p.opened x) with ⟨e | delivered, z⟩
  · rw [p.run_of_stages_error hs]
    exact ⟨[], .nil _⟩
  · obtain ⟨new, lead, -⟩ :=
      p.follows_closing (m := p.manner) (p.opened x).session.clock delivered z
    rw [p.run_of_stages_ok hs]
    exact ⟨new, lead⟩

lemma Comes.moved_first (h : p.Comes (p.opened x) t y) :
    p.movesBefore x.session t <+: movesOf (p.trace x) := by
  obtain ⟨opening, lead₀, along⟩ := follows_banner (m := p.manner) p.heading x
  obtain ⟨-, before, lead₁, moves⟩ := h.moved
  obtain ⟨n, -, rest⟩ := h.stages
  obtain ⟨new, lead₂⟩ := leads_turns (p := p) (n + 1) t y
  obtain ⟨last, lead₃⟩ := leads_end (p := p) x
  rw [rest] at lead₃
  rw [p.trace_eq (((lead₀.append lead₁).append lead₂).append lead₃), movesOf_append,
    movesOf_append, movesOf_append, along.quiet, List.nil_append, moves, List.append_assoc]
  exact List.prefix_append _ _

lemma loginMoves_isPrefix
    (mark : (.credentials, .ok) ∈ x.progress.marksSince (p.run.run x).2.progress) :
    p.loginMoves <+: movesOf (p.trace x) := by
  have ends := stages_end (p := p) (p.opened x)
  generalize hs : p.stages.run (p.opened x) = ended at ends
  cases ends with
  | @finished t y z delivered comes took =>
    rw [p.run_of_stages_ok hs, p.keeps_closing _ delivered z] at mark
    exact (comes.after_logins took nofun mark).trans comes.moved_first
  | @failed t y z e comes took =>
    rw [p.run_of_stages_error hs] at mark
    exact (comes.after_logins took nofun mark).trans comes.moved_first

end Publisher

/-! ### Calls for a registry -/

/-- A call that fetches a token, or one that logs in to a registry with it. -/
def Ecr.isLogin (argv : List String) : Bool :=
  argv.take 3 == ["aws", "ecr", "get-login-password"] ||
    (argv.take 5 == ["docker", "login", "--username", "AWS", "--password-stdin"] &&
      argv.length == 6)

namespace Publisher

variable (p : Publisher) {x : Publishing}

lemma filter_logins : (p.logins.map (·.1)).filter Ecr.isLogin =
    p.settings.aws.registries.flatMap fun id =>
      [["aws", "ecr", "get-login-password", "--region", p.settings.aws.region],
        ["docker", "login", "--username", "AWS", "--password-stdin",
          id ++ ".dkr.ecr." ++ p.settings.aws.region ++ ".amazonaws.com"]] := by
  have setup : Ecr.isLogin ["docker", "buildx", "create", "--use"] = false := rfl
  have hub : Ecr.isLogin ["docker", "login", "--username", p.settings.dockerHub.username,
      "--password-stdin"] = false := by simp [Ecr.isLogin]
  have token : Ecr.isLogin
      ["aws", "ecr", "get-login-password", "--region", p.settings.aws.region] = true := rfl
  have login (host : String) : Ecr.isLogin
      ["docker", "login", "--username", "AWS", "--password-stdin", host] = true := rfl
  simp only [logins, List.map_append, List.map_cons, List.map_nil, List.map_flatMap,
    List.filter_append, List.filter_cons, List.filter_nil, List.filter_flatMap, setup, hub, token,
    login, Bool.false_eq_true, ↓reduceIte, List.append_nil]

lemma isLogin_of_planned {s : Session} {rest : List (List String × Option String)}
    (planned : p.logins ++ rest <+: (p.plan s).filterMap Move.call?) :
    ∀ c ∈ rest, Ecr.isLogin c.1 = false := by
  intro c hc
  cases asked : p.requestIn s with
  | error e =>
    have none := (planned.trans (p.calls_plan_of_error asked)).length_le
    rw [List.length_append] at none
    rw [List.eq_nil_of_length_eq_zero (l := rest) (by omega)] at hc
    cases hc
  | ok request =>
    have admitted : p.Admitted := by
      by_contra barred
      rw [plan, earlyPlan, latePlan, if_neg barred, if_neg barred] at planned
      cases List.prefix_nil.mp planned
    rw [p.calls_plan admitted asked, commands, List.prefix_append_right_inj] at planned
    have late := planned.subset hc
    simp only [List.mem_cons, List.not_mem_nil, or_false] at late
    rcases late with rfl | rfl
    · simp [Ecr.isLogin]
    · simp [Ecr.isLogin, imageCommand]

lemma calls_after_logins (real : p.dryRun = false)
    (mark : (.credentials, .ok) ∈ x.progress.marksSince (p.run.run x).2.progress) :
    ∃ rest, (callsOf (p.trace x)).map (·.1.shape) = p.logins ++ rest ∧
      ∀ c ∈ rest, Ecr.isLogin c.1 = false := by
  obtain ⟨more, moves⟩ := loginMoves_isPrefix mark
  obtain ⟨new, lead, along⟩ := p.follows_run x
  rw [p.trace_eq lead] at moves ⊢
  have planned := along.moves.filterMap Move.call?
  rw [← moves, List.filterMap_append, calls_loginMoves] at planned
  refine ⟨more.filterMap Move.call?, ?_, p.isLogin_of_planned planned⟩
  rw [lead.shapes real, ← moves, List.filterMap_append, calls_loginMoves]

lemma isLogin_last {rest : List (List String × Option String)} {c : List String × Option String}
    (other : ∀ c ∈ rest, Ecr.isLogin c.1 = false) (last : (p.logins ++ rest).getLast? = some c) :
    Ecr.isLogin c.1 = false := by
  rcases List.eq_nil_or_concat rest with rfl | ⟨init, d, rfl⟩
  · rw [List.append_nil, logins, List.getLast?_concat] at last
    cases last
    simp [Ecr.isLogin]
  · rw [List.concat_eq_append, ← List.append_assoc, List.getLast?_concat] at last
    cases last
    exact other _ (by simp)

lemma succeeded_of_isLogin {rest : List (List String × Option String)}
    (shapes : (callsOf (p.trace x)).map (·.1.shape) = p.logins ++ rest)
    (other : ∀ c ∈ rest, Ecr.isLogin c.1 = false) {call : Command × Ending}
    (hc : call ∈ callsOf (p.trace x)) (login : Ecr.isLogin call.1.argv = true) :
    call.2.Succeeded := by
  obtain ⟨new, lead, along⟩ := p.follows_run x
  rw [p.trace_eq lead] at shapes hc
  obtain ⟨before, after, parts⟩ := List.append_of_mem hc
  refine along.call_succeeded parts fun none => ?_
  rw [parts, none, List.map_append, List.map_singleton] at shapes
  have last := p.isLogin_last other (c := call.1.shape) (by rw [← shapes, List.getLast?_concat])
  exact Bool.noConfusion (login.symm.trans last)

end Publisher

/-- **Logins to registries**: a list is read from a text exactly if each of its parts is more than
nothing, has no blanks at its ends and no comma, and the parts stand in the fields of the text, in
their order and with nothing but blanks around them and in the other fields; and it is read again
from its parts with commas between them. A run outside of a dry run that has its logins on record as
done has fetched a token and logged in with it for each field of the variable that is not blank, in
their order and no other, and all of these calls succeeded. -/
theorem registry_logins :
    (∀ s parts, Settings.commaList s = parts ↔
      (∀ part ∈ parts, part ≠ "" ∧ Text.strip part = part ∧ ',' ∉ part.toList) ∧
        ∃ fields, Settings.Spread parts fields ∧ Text.joined "," fields = s) ∧
    (∀ s, Settings.commaList (Text.joined "," (Settings.commaList s)) = Settings.commaList s) ∧
    ∀ (p : Publisher) (env : Env) (x : Publishing), Settings.load env = .ok p.settings →
      p.dryRun = false → (.credentials, .ok) ∈ x.progress.marksSince (p.run.run x).2.progress →
      ∃ fields, Text.joined "," fields = env.getD "ECR_REGISTRIES" "711395599931" ∧
        (∀ f ∈ fields, ',' ∉ f.toList) ∧
        ((callsOf (p.trace x)).map (·.1.argv)).filter Ecr.isLogin =
          (fields.filter (Text.strip · ≠ "")).flatMap (fun f =>
            [["aws", "ecr", "get-login-password", "--region", p.settings.aws.region],
              ["docker", "login", "--username", "AWS", "--password-stdin",
                Text.strip f ++ ".dkr.ecr." ++ p.settings.aws.region ++ ".amazonaws.com"]]) ∧
        ∀ call ∈ callsOf (p.trace x), Ecr.isLogin call.1.argv → call.2.Succeeded := by
  refine ⟨fun s parts => Settings.commaList_eq_iff, Settings.commaList_commaList,
    fun p env x loaded real mark => ?_⟩
  obtain ⟨fields, out, whole⟩ := Settings.exists_fields (env.getD "ECR_REGISTRIES" "711395599931")
  obtain ⟨rest, shapes, other⟩ := p.calls_after_logins real mark
  have registries : p.settings.aws.registries = (fields.map Text.strip).filter (· ≠ "") := by
    rw [Settings.registries_of_load loaded, ← whole, Settings.commaList_joined out]
  refine ⟨fields, whole, out, ?_, fun call hc => p.succeeded_of_isLogin shapes other hc⟩
  have argvs : (callsOf (p.trace x)).map (·.1.argv) = (p.logins ++ rest).map (·.1) := by
    rw [← shapes, List.map_map]
    rfl
  have none : (rest.map (·.1)).filter Ecr.isLogin = [] := by
    rw [List.filter_eq_nil_iff]
    intro argv ha
    obtain ⟨c, hc, rfl⟩ := List.mem_map.mp ha
    simp [other c hc]
  rw [argvs, List.map_append, List.filter_append, none, List.append_nil,
    p.filter_logins, registries, List.filter_map, List.flatMap_map]
  rfl

/-- An environment with two registries in it, one of them twice. -/
def listedEnv : Env :=
  [("AWS_ACCESS_KEY_ID", "key"), ("AWS_SECRET_ACCESS_KEY", "Zq8"), ("DOCKER_USERNAME", "AWS"),
    ("DOCKER_PASSWORD", "Qx9"), ("PUBLISH_ALLOWED_REPOSITORY", ""),
    ("ECR_REGISTRIES", ", 2 ,\t,1,\u30002")]

/-- A publisher with the settings of that environment. -/
def Publisher.listed : Publisher :=
  { usual "" "" [] with
    settings := (Settings.load listedEnv).toOption.getD (.usual "" "" []) }

/-- A release with these registries, where every tool succeeds. -/
theorem registry_logins_listed :
    Settings.load listedEnv = .ok Publisher.listed.settings ∧ Publisher.listed.dryRun = false ∧
      (.credentials, .ok) ∈ Progress.marksSince {}
        (Publisher.listed.run.run ⟨.still [] (.response {}), {}⟩).2.progress ∧
      ∃ fields, Text.joined "," fields = ", 2 ,\t,1,\u30002" ∧
        ((callsOf (Publisher.listed.trace ⟨.still [] (.response {}), {}⟩)).map (·.1.argv)).filter
            Ecr.isLogin =
          (fields.filter (Text.strip · ≠ "")).flatMap fun f =>
            [["aws", "ecr", "get-login-password", "--region", "us-east-2"],
              ["docker", "login", "--username", "AWS", "--password-stdin",
                Text.strip f ++ ".dkr.ecr." ++ "us-east-2" ++ ".amazonaws.com"]] := by
  have loaded : Settings.load listedEnv = .ok Publisher.listed.settings := by rfl
  have mark : (.credentials, .ok) ∈ Progress.marksSince {}
      (Publisher.listed.run.run ⟨.still [] (.response {}), {}⟩).2.progress := by decide +kernel
  obtain ⟨fields, whole, -, calls, -⟩ :=
    registry_logins.2.2 .listed listedEnv ⟨.still [] (.response {}), {}⟩ loaded rfl mark
  exact ⟨loaded, rfl, mark, fields, whole, calls⟩

end ImageRelease
