import ImageRelease.Proofs.Release.Course

/-!
The calls of a run.

Outside of a dry run the commands of a run are started one after another, in an order that is known
before: the logins, the wheels, the image. `fail_fast` says that they are a first part of that list,
that nothing is done after a command that failed, and that all of it is done exactly by the runs
that deliver.
-/

namespace ImageRelease

open Session Act

/-- What a command is known by: its arguments and its directory. -/
def Command.shape (c : Command) : List String × Option String :=
  (c.argv, c.cwd)

def Move.call? : Move → Option (List String × Option String)
  | call argv cwd => some (argv, cwd)
  | lookup _ => none

lemma Event.failed_iff {e : Event} {c : Command × Ending} (h : e.call? = some c) :
    e.Failed ↔ ¬c.2.Succeeded := by
  cases e with
  | command c' fate =>
    cases fate with
    | rehearsed => cases h
    | started ending => cases h; rfl
  | logged => cases h
  | lookup => cases h
  | masked => cases h

lemma Session.Leads.shapes {m : Manner} {s t : Session} {new : List Event}
    (h : s.Leads m new t) (real : m.dryRun = false) :
    (callsOf new).map (·.1.shape) = (movesOf new).filterMap Move.call? := by
  induction h with
  | nil => rfl
  | @cons s t u e new step _ ih =>
    rw [← List.singleton_append, callsOf_append, movesOf_append, List.map_append,
      List.filterMap_append, ih]
    congr 1
    cases step with
    | rehearsed c dry => exact Bool.noConfusion (real.symm.trans dry)
    | logged => rfl
    | masked => rfl
    | started => rfl
    | asked => rfl

lemma Along.call_succeeded {plan : List Move} {new : List Event} {ok : Bool}
    (h : Along plan new ok) {before after : List (Command × Ending)} {c : Command × Ending}
    (hc : callsOf new = before ++ c :: after) (more : after ≠ []) : c.2.Succeeded := by
  by_contra hf
  obtain ⟨old, rest, rfl, -, hr⟩ := List.filterMap_eq_append_iff.mp hc
  obtain ⟨quiet, e, last, rfl, -, he, hl⟩ := List.filterMap_eq_cons_iff.mp hr
  have failed : e.Failed := (Event.failed_iff he).mpr hf
  rw [← List.append_assoc] at h
  exact more (hl.symm.trans (callsOf_of_quiet (h.after_failed failed)))

namespace Publisher

variable (p : Publisher)

def logins : List (List String × Option String) :=
  (["docker", "buildx", "create", "--use"], none) ::
    p.settings.aws.registries.flatMap (fun id =>
      [(["aws", "ecr", "get-login-password", "--region", p.settings.aws.region], none),
        (["docker", "login", "--username", "AWS", "--password-stdin",
          id ++ ".dkr.ecr." ++ p.settings.aws.region ++ ".amazonaws.com"], none)]) ++
    [(["docker", "login", "--username", p.settings.dockerHub.username, "--password-stdin"], none)]

/-- The command that makes the image of a request. -/
def imageCommand (request : Request) : List String :=
  ["docker", "buildx", "build", "--file", (p.root.join p.settings.image.dockerfile).text,
      "--tag", p.settings.image.image ++ ":" ++ request.reference] ++
    request.buildArgs.flatMap (fun a => ["--build-arg", a.1 ++ "=" ++ a.2]) ++
    [if request.push then "--push" else "--load", (p.root.join p.settings.image.context).text]

/-- All commands of a run that delivers a request. -/
def commands (interpreter : String) (request : Request) : List (List String × Option String) :=
  p.logins ++
    [([interpreter, "setup.py", "bdist_wheel"], some (p.root.join p.settings.wheelDirectory).text),
      (p.imageCommand request, none)]

/-- There is one build argument at most, so there is nothing to put in order. -/
lemma sortedArgs_buildArgs (request : Request) :
    Docker.sortedArgs request.buildArgs = request.buildArgs := by
  rcases request with ⟨_ | _, version, push⟩
  · exact List.mergeSort_nil
  · exact List.mergeSort_singleton _

lemma buildCommand_eq (request : Request) :
    p.docker.buildCommand (p.buildSpec request (p.selection request)) = p.imageCommand request := by
  simp only [Docker.buildCommand, buildSpec, sortedArgs_buildArgs]
  rfl

lemma buildMove_eq (request : Request) :
    p.buildMove request = .call (p.imageCommand request) none := by
  rw [buildMove, buildCommand_eq]

lemma calls_loginMoves : p.loginMoves.filterMap Move.call? = p.logins := by
  have each : ∀ registries : List String,
      (registries.flatMap (Ecr.movesFor p.settings.aws)).filterMap Move.call? =
        registries.flatMap fun id =>
          [(Ecr.tokenCommand p.settings.aws.region, none),
            (Ecr.loginCommand (Ecr.host id p.settings.aws.region), none)] := by
    intro registries
    induction registries with
    | nil => rfl
    | cons id rest ih =>
      rw [List.flatMap_cons, List.flatMap_cons, List.filterMap_append, ih]
      rfl
  rw [loginMoves, ← List.singleton_append, List.filterMap_append, List.filterMap_append, each]
  rfl

lemma calls_lookupMoves (request : Request) :
    (p.lookupMoves request).filterMap Move.call? = [] := by
  unfold lookupMoves
  split <;> rfl

lemma calls_plan {s : Session} {request : Request} (admitted : p.Admitted)
    (asked : p.requestIn s = .ok request) :
    (p.plan s).filterMap Move.call? = p.commands s.interpreter request := by
  rw [plan, earlyPlan, latePlan, if_pos admitted, if_pos admitted, asked]
  dsimp only
  rw [List.filterMap_append, List.filterMap_append, List.filterMap_append, p.calls_loginMoves,
    p.calls_lookupMoves, List.append_assoc, buildMove_eq]
  rfl

lemma calls_plan_of_error {s : Session} {e : Failure} (asked : p.requestIn s = .error e) :
    (p.plan s).filterMap Move.call? <+: p.logins := by
  rw [plan, earlyPlan, latePlan, asked]
  by_cases admitted : p.Admitted
  · rw [if_pos admitted, if_pos admitted]
    dsimp only
    rw [List.append_nil, List.append_nil, p.calls_loginMoves]
  · rw [if_neg admitted, if_neg admitted]
    exact List.nil_prefix

lemma requestIn_of_no_version {s : Session} (release : Mode.parse p.asked = .ok .release)
    (none : ∀ v, Properties.readVersion (p.filesRead s) (p.root.join p.settings.propertiesFile)
      p.settings.versionKey ≠ .ok (some v)) : ∃ e, p.requestIn s = .error e := by
  unfold requestIn requestFrom
  rw [release]
  dsimp only
  cases h : p.versionFrom .release (p.filesRead s) with
  | error e => exact ⟨e, rfl⟩
  | ok version =>
    cases version with
    | none => exact ⟨_, rfl⟩
    | some v => exact absurd (p.readVersion_of_versionFrom h) (none v)

/-- A move that failed in a run is its last call, or its last question. -/
lemma failed_last {plan : List Move} {new : List Event} {ok : Bool} (along : Along plan new ok)
    {e : Event} (he : e ∈ new) (failed : e.Failed) :
    (∃ url, (movesOf new).getLast? = some (.lookup url)) ∨
      ∃ c ∈ (callsOf new).getLast?, ¬c.2.Succeeded := by
  obtain ⟨before, after, rfl⟩ := List.append_of_mem he
  have quiet := along.after_failed failed
  rw [← List.singleton_append, movesOf_append, movesOf_append, quiet, callsOf_append,
    callsOf_append, callsOf_of_quiet quiet, List.append_nil, List.append_nil]
  cases e with
  | command c fate =>
    cases fate with
    | rehearsed => exact failed.elim
    | started ending => exact .inr ⟨(c, ending), List.getLast?_concat, failed⟩
  | lookup url reply => exact .inl ⟨url, List.getLast?_concat⟩
  | logged => exact failed.elim
  | masked => exact failed.elim

lemma plan_getLast? {s : Session} {request : Request} (admitted : p.Admitted)
    (asked : p.requestIn s = .ok request) : (p.plan s).getLast? = some (p.buildMove request) := by
  rw [plan, latePlan, if_pos admitted, asked]
  dsimp only
  rw [← List.append_assoc, List.getLast?_concat]

/-- The moves of a run that made all its calls are all that was planned. -/
lemma moves_whole {plan moves : List Move} (h : moves <+: plan) {argv : List String}
    {cwd : Option String} (hl : plan.getLast? = some (.call argv cwd))
    (all : moves.filterMap Move.call? = plan.filterMap Move.call?) : moves = plan := by
  obtain ⟨rest, rfl⟩ := h
  rw [List.filterMap_append, List.self_eq_append_right] at all
  rcases List.eq_nil_or_concat rest with rfl | ⟨init, move, rfl⟩
  · rw [List.append_nil]
  · rw [List.concat_eq_append, ← List.append_assoc, List.getLast?_concat, Option.some.injEq] at hl
    rw [hl, List.concat_eq_append, List.filterMap_append, List.append_eq_nil_iff] at all
    cases all.2

/-- All commands were called and the last one succeeded: then the run has delivered. -/
lemma delivered_of_calls {x : Publishing} (real : p.dryRun = false) (timely : x.session.Timely)
    {request : Request} (asked : p.requestIn x.session = .ok request)
    (all : (callsOf (p.trace x)).map (·.1.shape) = p.commands x.session.interpreter request)
    (last : ∀ c ∈ (callsOf (p.trace x)).getLast?, c.2.Succeeded) :
    ∃ r, (p.run.run x).1 = .ok r ∧ r.state = .delivered := by
  have admitted : p.Admitted := by
    by_contra barred
    obtain ⟨new, lead, along⟩ := p.follows_run x
    have quiet : movesOf new = [] := by
      have moves := along.moves
      rw [plan, earlyPlan, latePlan, if_neg barred, if_neg barred] at moves
      exact List.prefix_nil.mp moves
    rw [p.trace_eq lead, callsOf_of_quiet quiet] at all
    cases all
  obtain ⟨new, lead, along, reason⟩ := p.thorough_run timely admitted asked
  rw [p.trace_eq lead] at all last
  have moves : movesOf new = p.plan x.session := by
    refine moves_whole along.moves (p.plan_getLast? admitted asked) ?_
    rw [← lead.shapes real, all, p.calls_plan admitted asked]
  rcases h : p.run.run x with ⟨e | r, z⟩
  · rw [h] at reason
    rcases reason rfl with left | ⟨event, he, failed⟩
    · exact absurd moves left
    · rcases failed_last along he failed with ⟨url, hu⟩ | ⟨c, hc, hf⟩
      · rw [moves, p.plan_getLast? admitted asked] at hu
        cases hu
      · exact absurd (last c hc) hf
  · rcases p.run_ok h with ⟨hr, -⟩ | ⟨-, barred⟩
    · exact ⟨r, rfl, hr⟩
    · exact absurd admitted.1 (by simp [barred])

/-- A run that delivers has called all commands, and none of them failed. -/
lemma calls_of_delivered {x : Publishing} (real : p.dryRun = false) {request : Request}
    (asked : p.requestIn x.session = .ok request) {r : JobResult}
    (h : (p.run.run x).1 = .ok r) (hr : r.state = .delivered) :
    (callsOf (p.trace x)).map (·.1.shape) = p.commands x.session.interpreter request ∧
      ∀ c ∈ callsOf (p.trace x), c.2.Succeeded := by
  obtain ⟨new, lead, along⟩ := p.follows_run x
  rw [p.trace_eq lead]
  rcases hx : p.run.run x with ⟨e | r', z⟩ <;> rw [hx] at h lead along <;> cases h
  rcases p.run_ok hx with ⟨-, admitted, -⟩ | ⟨skipped, -⟩
  · refine ⟨?_, fun c hc => ?_⟩
    · rw [lead.shapes real, along.whole rfl, p.calls_plan admitted asked]
    · obtain ⟨event, he, hce⟩ := List.mem_filterMap.mp hc
      exact not_not.mp ((Event.failed_iff hce).not.mp (along.not_failed event he))
  · exact nomatch hr.symm.trans skipped

/-- **Fail-fast**: outside of a dry run the calls of a run are a first part of the commands that
were laid down for it, and it delivers exactly if all of them were called and the last one
succeeded. Each call but the last succeeded, and after a call that failed nothing is called or
asked any more. Without a request, which a release without a version does not have, no call is
made after the logins. -/
theorem fail_fast (real : p.dryRun = false) (x : Publishing) (timely : x.session.Timely) :
    (∀ request, p.requestIn x.session = .ok request →
      (callsOf (p.trace x)).map (·.1.shape) <+: p.commands x.session.interpreter request ∧
        ((callsOf (p.trace x)).map (·.1.shape) = p.commands x.session.interpreter request ∧
            (∀ c ∈ (callsOf (p.trace x)).getLast?, c.2.Succeeded) ↔
          ∃ r, (p.run.run x).1 = .ok r ∧ r.state = .delivered)) ∧
      (∀ before c after, callsOf (p.trace x) = before ++ c :: after → after ≠ [] →
        c.2.Succeeded) ∧
      (∀ before c e after, p.trace x = before ++ .command c (.started e) :: after →
        ¬e.Succeeded → movesOf after = [] ∧ ∃ failure, (p.run.run x).1 = .error failure) ∧
      (∀ e, p.requestIn x.session = .error e →
        (callsOf (p.trace x)).map (·.1.shape) <+: p.logins ∧
          ∀ r, (p.run.run x).1 = .ok r → r.state = .skipped) ∧
      (Mode.parse p.asked = .ok .release →
        (∀ v, Properties.readVersion (p.filesRead x.session)
          (p.root.join p.settings.propertiesFile) p.settings.versionKey ≠ .ok (some v)) →
        ∃ e, p.requestIn x.session = .error e) := by
  obtain ⟨new, lead, along⟩ := p.follows_run x
  have trace := p.trace_eq lead
  have calls_prefix : (callsOf (p.trace x)).map (·.1.shape) <+:
      (p.plan x.session).filterMap Move.call? := by
    rw [trace, lead.shapes real]
    exact along.moves.filterMap _
  refine ⟨fun request asked => ⟨?_, ?_⟩, ?_, ?_, fun e asked => ⟨?_, ?_⟩, ?_⟩
  · by_cases admitted : p.Admitted
    · rwa [← p.calls_plan admitted asked]
    · rw [plan, earlyPlan, latePlan, if_neg admitted, if_neg admitted] at calls_prefix
      rw [List.prefix_nil.mp calls_prefix]
      exact List.nil_prefix
  · constructor
    · rintro ⟨all, last⟩
      exact p.delivered_of_calls real timely asked all last
    · rintro ⟨r, h, hr⟩
      obtain ⟨all, succeeded⟩ := p.calls_of_delivered real asked h hr
      exact ⟨all, fun c hc => succeeded c (List.mem_of_getLast? hc)⟩
  · intro before c after hc
    rw [trace] at hc
    exact along.call_succeeded hc
  · intro before c e after ht hf
    rw [trace] at ht
    rw [ht] at along
    refine ⟨along.after_failed (e := .command c (.started e)) hf, ?_⟩
    have stopped := along.stopped _ (List.mem_append_right _ List.mem_cons_self) hf
    cases hr : (p.run.run x).1 with
    | error failure => exact ⟨failure, rfl⟩
    | ok r => rw [hr] at stopped; cases stopped
  · exact calls_prefix.trans (p.calls_plan_of_error asked)
  · intro r h
    rcases hx : p.run.run x with ⟨_, z⟩
    rw [hx] at h
    cases h
    rcases p.run_ok hx with ⟨-, -, request, made⟩ | ⟨skipped, -⟩
    · cases asked.symm.trans made
    · exact skipped
  · exact p.requestIn_of_no_version

/-- A release of version 0.25.0 with one registry, where every tool succeeds and the tag is free. -/
theorem fail_fast_usual :
    (usual "Zq8" "Qx9" ["1"]).dryRun = false ∧ (Session.still [] (.response {})).Timely ∧
      (usual "Zq8" "Qx9" ["1"]).requestIn (.still [] (.response {})) =
        .ok ⟨.release, "0.25.0", true⟩ ∧
      (callsOf ((usual "Zq8" "Qx9" ["1"]).trace ⟨.still [] (.response {}), {}⟩)).map (·.1.shape) <+:
        (usual "Zq8" "Qx9" ["1"]).commands "python3" ⟨.release, "0.25.0", true⟩ := by
  have timely := timely_still [] (.response {})
  have asked : (usual "Zq8" "Qx9" ["1"]).requestIn (.still [] (.response {})) =
      .ok ⟨.release, "0.25.0", true⟩ := rfl
  have fast := fail_fast (usual "Zq8" "Qx9" ["1"]) rfl ⟨.still [] (.response {}), {}⟩ timely
  exact ⟨rfl, timely, asked, (fast.1 _ asked).1⟩

/-- One byte of a Latin letter, which is no UTF-8. -/
def latinByte : Text.Utf8.Fault :=
  ⟨0xE9, 0, 0, .endOfData⟩

/-- A session in which the build of the image writes such a byte, and succeeds. -/
def wroteLatin : Session :=
  .still (List.replicate 5 (.exited 0 "" "") ++ [.unreadable 0 latinByte]) (.response {})

/-- All commands of a release were called and each exited with a status of zero, but the last one
wrote what is no text: the run does not deliver. -/
theorem fail_fast_unreadable :
    Text.Utf8.decode [0xE9] = .error latinByte ∧
      (usual "Zq8" "Qx9" ["1"]).requestIn wroteLatin = .ok ⟨.release, "0.25.0", true⟩ ∧
      (callsOf ((usual "Zq8" "Qx9" ["1"]).trace ⟨wroteLatin, {}⟩)).map (·.1.shape) =
        (usual "Zq8" "Qx9" ["1"]).commands "python3" ⟨.release, "0.25.0", true⟩ ∧
      (∀ c ∈ callsOf ((usual "Zq8" "Qx9" ["1"]).trace ⟨wroteLatin, {}⟩),
        c.2.status? = some 0) ∧
      ((usual "Zq8" "Qx9" ["1"]).run.run ⟨wroteLatin, {}⟩).1.isOk = false := by
  refine ⟨by decide +kernel, rfl, ?_, ?_, ?_⟩ <;> decide +kernel

end Publisher

end ImageRelease
