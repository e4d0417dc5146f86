import ImageRelease.Proofs.Session.Plan
import ImageRelease.Buildx
import ImageRelease.Wheel

/-!
Commands along plans.

Running a command is one move: a line that shows it, the command itself, and for a status other than
zero a line with what the tool wrote. `run_eq` says so once, with what the command comes to; every
tool is followed from there, and a value is handed over only after it is masked.
-/

namespace ImageRelease

open Session Act

lemma run_addSecret (secret : String) (s : Session) :
    (addSecret secret).run s =
      (.ok (), if secret = "" ∨ secret ∈ s.secrets then s else s.noted (.masked secret)) := by
  unfold addSecret
  rw [run_bind_of_ok (run_state s)]
  split <;> rfl

/-- What is handed over after it is masked is known, unless it is empty. -/
lemma known_of_addSecret {secret : String} {s t : Session} {u : Unit}
    (h : (addSecret secret).run s = (.ok u, t)) : secret = "" ∨ secret ∈ t.secrets := by
  rw [run_addSecret, Prod.mk.injEq] at h
  rw [← h.2]
  split
  · assumption
  · exact .inr (by simp [secrets_noted, Event.secret?])

variable {m : Manner} {plan : List Move}

lemma follows_log (level : Level) (text : String) : (log level text).Follows m id [] := fun s =>
  ⟨[.logged level text], .single (.logged s level text), .of_quiet rfl _⟩

lemma follows_info (text : String) : (info text).Follows m id [] :=
  follows_log .info text

lemma follows_addSecret (secret : String) : (addSecret secret).Follows m id [] := fun s => by
  unfold FollowsFrom
  rw [run_addSecret]
  split
  · exact ⟨[], .nil s, .of_quiet rfl _⟩
  · case isFalse h =>
    rw [not_or] at h
    exact ⟨[.masked secret], .single (.masked s secret h.1 h.2), .of_quiet rfl _⟩

/-- An external step puts a line before what it does and one after it. -/
lemma run_timed {α : Type} (name : String) (body : Act Session α) (s : Session) :
    ∃ level text, (timed name body).run s =
      ((body.run (s.noted (.logged .info ("▶ " ++ name ++ " — started")))).1,
        (body.run (s.noted (.logged .info ("▶ " ++ name ++ " — started")))).2.noted
          (.logged level text)) := by
  unfold timed
  rw [run_bind_of_ok (run_info _ s), run_bind_of_ok (run_state _)]
  rcases h : body.run (s.noted (.logged .info ("▶ " ++ name ++ " — started"))) with ⟨e | a, t⟩
  · exact ⟨.error, _, run_bind_of_error (run_onFailure_of_error h)⟩
  · exact ⟨.info, _, run_bind_of_ok (run_onFailure_of_ok h)⟩

lemma follows_timed {α : Type} (name : String) {body : Act Session α}
    (h : body.Follows m id plan) : (timed name body).Follows m id plan := by
  refine (follows_info _).after fun _ => follows_state.after fun s => ?_
  refine Follows.before (h.onFailure fun _ => ?_) fun _ => ?_
  · exact follows_state.after fun _ => follows_log _ _
  · exact follows_state.after fun _ => (follows_info _).after fun _ => follows_pure _

lemma thorough_timed {α : Type} (name : String) {body : Act Session α}
    (h : ∀ s, body.Thorough m id plan s) (ne : plan ≠ []) (s : Session) :
    (timed name body).Thorough m id plan s := by
  refine (follows_info _ s).thorough_after ne fun _ t _ _ _ _ => ?_
  refine (follows_state t).thorough_after ne fun start t _ _ _ _ => ?_
  refine Thorough.before ((h t).onFailure fun _ => ?_) (fun _ => ?_) fun _ _ _ _ _ => rfl
  · exact follows_state.after fun _ => follows_log _ _
  · exact follows_state.after fun _ => (follows_info _).after fun _ => follows_pure _

/-! ### What a command leaves behind -/

/-- The line about a command that ended with a status other than zero. -/
def exitLine (journal : List Event) (c : Command) (status : Int) (stderr : String) : Event :=
  .logged .error ("  " ++ baseName (c.argv.headD "") ++ " returned " ++ toString status ++ ": " ++
    Text.lastChars logLimit (Text.strip (redact [stderr] (secretsOf journal))))

/-- What is said about the end of a command. -/
def complaint (journal : List Event) (c : Command) : Fate → List Event
  | .started (.exited status _ stderr) =>
    if status = 0 then [] else [exitLine journal c status stderr]
  | _ => []

/-- What a command puts into a journal. -/
def block (journal : List Event) (lead : String) (c : Command) (fate : Fate) : List Event :=
  .logged .info (lead ++ redact c.argv (secretsOf journal)) :: .command c fate ::
    complaint journal c fate

/-- The failure of a command that ended with a status other than zero. -/
def exitFailure (journal : List Event) (c : Command) (status : Int) (stderr : String) : Failure :=
  .rejected (.tool (.exited
    { tool := baseName (c.argv.headD ""), status,
      stderr := redact [stderr] (secretsOf journal) }))

@[simp] lemma movesOf_complaint (journal : List Event) (c : Command) (fate : Fate) :
    movesOf (complaint journal c fate) = [] := by
  unfold complaint
  split
  · split <;> rfl
  · rfl

lemma block_eq (journal : List Event) (lead : String) (c : Command) (fate : Fate) :
    block journal lead c fate =
      [.logged .info (lead ++ redact c.argv (secretsOf journal)), .command c fate] ++
        complaint journal c fate := rfl

/-- The call is the only thing in its block that reaches beyond the session. -/
lemma callsOf_block (journal : List Event) (lead : String) (c : Command) (fate : Fate) :
    callsOf (block journal lead c fate) = (Event.command c fate).call?.toList := by
  have quiet := callsOf_of_quiet (movesOf_complaint journal c fate)
  rw [block_eq, callsOf_append, quiet, List.append_nil]
  cases fate <;> rfl

lemma secretsOf_block (journal : List Event) (lead : String) (c : Command) (fate : Fate) :
    secretsOf (block journal lead c fate) = [] := by
  have quiet : secretsOf (complaint journal c fate) = [] := by
    unfold complaint
    split
    · split <;> rfl
    · rfl
  exact quiet

lemma complaint_leads (journal : List Event) (c : Command) (fate : Fate) (s : Session) :
    s.Leads m (complaint journal c fate)
      { s with journal := s.journal ++ complaint journal c fate } := by
  have none : s.Leads m [] { s with journal := s.journal ++ [] } := by
    rw [List.append_nil]
    exact .nil s
  unfold complaint
  split
  · split
    · exact none
    · exact .single (.logged s _ _)
  · exact none

/-- What is left of an output without the blanks around it. -/
def Ending.token : Ending → String
  | .exited _ stdout _ => Text.strip stdout
  | _ => ""

namespace Runner

def manner (r : Runner) (a : Aws) : Manner :=
  ⟨r.dryRun, a⟩

def lead (r : Runner) : String :=
  if r.dryRun then "  DRY RUN: would execute: " else "  $ "

/-- The command that is handed over in a session. -/
def commandIn (r : Runner) (s : Session) (argv : List String) (cwd : Option String)
    (overrides : Env) (input : Option String) : Command :=
  ⟨argv, cwd, if overrides = [] then none else some (Entries.merge s.env overrides), input,
    r.timeout⟩

/-- What becomes of a command in a session. -/
def fateIn (r : Runner) (s : Session) : Fate :=
  if r.dryRun then .rehearsed else .started s.nextOutcome.ending

/-- The world after a command. -/
def worldAfter (r : Runner) (s : Session) : Session :=
  if r.dryRun then s else s.proceed

/-- What a command comes to. -/
def conclusion (r : Runner) (journal : List Event) (c : Command) : Fate → Except Failure Completed
  | .rehearsed => .ok { argv := c.argv }
  | .started (.exited status stdout stderr) =>
    if status = 0 then .ok ⟨c.argv, status, stdout, stderr⟩
    else .error (exitFailure journal c status stderr)
  | .started (.unreadable _ fault) => .error (.notText fault)
  | .started .notFound => .error (.rejected (.tool (.notFound (baseName (c.argv.headD "")))))
  | .started .timedOut => .error (.timedOut (baseName (c.argv.headD "")) r.limit)
  | .started .denied => .error (.permissionDenied (c.argv.headD ""))
  | .started (.refused why) => .error (.refused why)

/-- What running a command does: its block goes into the journal, and the world goes on. -/
lemma run_eq (r : Runner) {argv : List String} (ne : argv ≠ []) (cwd : Option String)
    (overrides : Env) (input : Option String) (s : Session) :
    (r.run argv cwd overrides input).run s =
      (r.conclusion s.journal (r.commandIn s argv cwd overrides input) (r.fateIn s),
        { r.worldAfter s with
          journal := s.journal ++
            block s.journal r.lead (r.commandIn s argv cwd overrides input) (r.fateIn s) }) := by
  obtain ⟨program, args, rfl⟩ := List.exists_cons_of_ne_nil ne
  cases hd : r.dryRun with
  | true =>
    simp [run, run_bind, hd, lead, fateIn, worldAfter, conclusion, block, complaint, commandIn,
      secrets_eq, noted, -bind_pure_comp]
  | false =>
    let c := r.commandIn s (program :: args) cwd overrides input
    let u : Session := { s.proceed with
      journal := s.journal ++ [.logged .info (r.lead ++ redact c.argv (secretsOf s.journal)),
        .command c (.started s.nextOutcome.ending)] }
    have ended : (r.run (program :: args) cwd overrides input).run s =
        (r.conclude (program :: args) program s.nextOutcome.ending).run u := by
      simp [run, run_bind, hd, u, c, commandIn, lead, secrets_eq, noted, proceed]
      rfl
    rw [ended]
    simp only [fateIn, worldAfter, hd, Bool.false_eq_true, ↓reduceIte]
    cases he : s.nextOutcome.ending with
    | exited status stdout stderr =>
      by_cases hz : status = 0
      · simp [conclude, conclusion, block, complaint, hz, u, c, he, commandIn]
      · simp [conclude, conclusion, block, complaint, hz, u, c, he, run_bind, exitFailure, exitLine,
          commandIn, noted, secrets_eq, secretsOf, Event.secret?, List.filterMap_cons]
    | _ => simp [conclude, conclusion, block, complaint, u, c, he, commandIn]

lemma run_rehearsed {r : Runner} (dry : r.dryRun = true) {argv : List String} (ne : argv ≠ [])
    (cwd : Option String) (overrides : Env) (input : Option String) (s : Session) :
    (r.run argv cwd overrides input).run s =
      (.ok { argv }, { s with
        journal := s.journal ++
          block s.journal r.lead (r.commandIn s argv cwd overrides input) .rehearsed }) := by
  rw [r.run_eq ne, fateIn, worldAfter, dry]
  rfl

lemma run_started {r : Runner} (real : r.dryRun = false) {argv : List String} (ne : argv ≠ [])
    (cwd : Option String) (overrides : Env) (input : Option String) (s : Session) :
    (r.run argv cwd overrides input).run s =
      (r.conclusion s.journal (r.commandIn s argv cwd overrides input)
          (.started s.nextOutcome.ending),
        { s.proceed with
          journal := s.journal ++ block s.journal r.lead
            (r.commandIn s argv cwd overrides input) (.started s.nextOutcome.ending) }) := by
  rw [r.run_eq ne, fateIn, worldAfter, real]
  rfl

/-- A command that is started comes to something exactly if it succeeds. -/
lemma conclusion_isOk (r : Runner) (journal : List Event) (c : Command) (e : Ending) :
    (r.conclusion journal c (.started e)).isOk = decide e.Succeeded := by
  cases e with
  | exited status stdout stderr =>
    by_cases h : status = 0 <;> simp [conclusion, Ending.Succeeded, h, Except.isOk, Except.toBool]
  | _ => rfl

lemma conclusion_congr (r : Runner) {j j' : List Event} (h : secretsOf j = secretsOf j')
    (c : Command) (fate : Fate) : r.conclusion j c fate = r.conclusion j' c fate := by
  unfold conclusion exitFailure
  rw [h]

lemma conclusion_of_succeeded (r : Runner) {e : Ending} (h : e.Succeeded) (journal : List Event)
    (c : Command) :
    ∃ done, r.conclusion journal c (.started e) = .ok done ∧ Text.strip done.stdout = e.token := by
  cases e with
  | exited status stdout stderr => exact ⟨⟨c.argv, status, stdout, stderr⟩, if_pos h, rfl⟩
  | _ => exact h.elim

lemma conclusion_of_failed (r : Runner) {e : Ending} (h : ¬e.Succeeded) (journal : List Event)
    (c : Command) : ∃ failure, r.conclusion journal c (.started e) = .error failure := by
  cases hc : r.conclusion journal c (.started e) with
  | error failure => exact ⟨failure, rfl⟩
  | ok done =>
    have ok := r.conclusion_isOk journal c e
    rw [hc] at ok
    exact absurd (of_decide_eq_true ok.symm) h

variable (r : Runner) (a : Aws)

/-- One command is one move, if what is handed over to it is masked, and it fails only where that
command does. -/
lemma thorough_run {argv : List String} (ne : argv ≠ []) (cwd : Option String) {overrides : Env}
    (ho : overrides = [] ∨ overrides = a.environment) (input : Option String) (s : Session)
    (hi : ∀ i, input = some i → i = "" ∨ i ∈ s.secrets) :
    (r.run argv cwd overrides input).Thorough (r.manner a) id [.call argv cwd] s := by
  unfold Thorough
  let c := r.commandIn s argv cwd overrides input
  let line : Event := .logged .info (r.lead ++ redact c.argv (secretsOf s.journal))
  have showing : s.Leads (r.manner a) [line] (s.noted line) := .single (.logged s _ _)
  have quiet : Along [] [line] true := .of_quiet rfl true
  cases hd : r.dryRun with
  | true =>
    rw [run_rehearsed hd ne]
    refine ⟨block s.journal r.lead c .rehearsed, ?_, ?_, fun hok => ?_⟩
    · have rehearsing := showing.append (.single (.rehearsed _ c hd))
      simpa [noted, block, complaint, line] using rehearsing
    · exact quiet.append (.single rfl False.elim)
    · cases hok
  | false =>
    rw [run_started hd ne]
    simp only [conclusion_isOk]
    refine ⟨block s.journal r.lead c (.started s.nextOutcome.ending), ?_, ?_, ?_⟩
    · have starting : (s.noted line).Leads (r.manner a) [.command c (.started s.nextOutcome.ending)]
          ((s.noted line).proceed.noted (.command c (.started s.nextOutcome.ending))) := by
        refine .single (.started _ _ hd (fun i h => ?_) ?_)
        · rw [secrets_noted]
          exact (hi i h).imp_right (List.mem_append_left _)
        · rcases ho with rfl | rfl
          · exact .inl rfl
          · exact .inr rfl
      have ended := (showing.append starting).append
        (complaint_leads s.journal c (.started s.nextOutcome.ending) _)
      simpa [noted, proceed, nextOutcome, block, line, c] using ended
    · refine quiet.append (Along.append_quiet
        (.single (e := .command c (.started s.nextOutcome.ending)) rfl fun hf => ?_)
        (movesOf_complaint s.journal c (.started s.nextOutcome.ending)))
      exact decide_eq_false hf
    · intro hf
      refine .inr ⟨.command c (.started s.nextOutcome.ending), by simp [block], ?_⟩
      exact of_decide_eq_false hf

lemma follows_run {argv : List String} (ne : argv ≠ []) (cwd : Option String) {overrides : Env}
    (ho : overrides = [] ∨ overrides = a.environment) :
    (r.run argv cwd overrides).Follows (r.manner a) id [.call argv cwd] :=
  fun s => (r.thorough_run a ne cwd ho none s nofun).follows

lemma follows_handOver {α : Type} {argv : List String} (ne : argv ≠ []) (secret : String)
    {rest : Completed → Act Session α} (hr : ∀ done, (rest done).Follows (r.manner a) id []) :
    (addSecret secret >>= fun _ => r.run argv none [] (some secret) >>= rest).Follows
      (r.manner a) id [.call argv none] := by
  have handing : (addSecret secret >>= fun _ => r.run argv none [] (some secret)).Follows
      (r.manner a) id [.call argv none] := fun s => by
    refine FollowsFrom.after (follows_addSecret secret s) fun _ t _ h _ _ => ?_
    refine (r.thorough_run a ne none (.inl rfl) (some secret) t fun i hi => ?_).follows
    rw [← Option.some.inj hi]
    exact known_of_addSecret h
  rw [← bind_assoc]
  exact handing.before hr

end Runner

/-! ### The tools -/

namespace Docker

variable (d : Docker) (a : Aws)

lemma follows_setupBuildx :
    d.setupBuildx.Follows (d.runner.manner a) id [.call d.setupCommand none] :=
  follows_timed _ ((d.runner.follows_run a (List.cons_ne_nil _ _) none (.inl rfl)).before fun _ =>
    follows_pure ())

lemma follows_login (username password : String) :
    (d.login username password).Follows (d.runner.manner a) id
      [.call (d.loginCommand username none) none] := by
  exact follows_timed _ (d.runner.follows_handOver a (List.cons_ne_nil _ _) password fun _ =>
    follows_pure ())

lemma buildCommand_ne_nil (spec : BuildSpec) : d.buildCommand spec ≠ [] := by
  simp [buildCommand]

lemma thorough_build (spec : BuildSpec) (s : Session) :
    (d.build spec).Thorough (d.runner.manner a) id [.call (d.buildCommand spec) none] s := by
  refine thorough_timed _ (fun s => ?_) (List.cons_ne_nil _ _) s
  refine Thorough.before
    (d.runner.thorough_run a (d.buildCommand_ne_nil spec) none (.inl rfl) none s nofun)
    (fun _ => ?_) fun _ _ _ _ _ => rfl
  exact (follows_info _).after fun _ => follows_pure _

lemma follows_build (spec : BuildSpec) :
    (d.build spec).Follows (d.runner.manner a) id [.call (d.buildCommand spec) none] :=
  fun s => (d.thorough_build a spec s).follows

end Docker

namespace Ecr

variable (r : Runner) (a : Aws)

def movesFor (a : Aws) (registry : String) : List Move :=
  [.call (tokenCommand a.region) none, .call (loginCommand (host registry a.region)) none]

lemma follows_loginTo (registry : String) :
    (loginTo r a registry).Follows (r.manner a) id (movesFor a registry) := by
  have moves : movesFor a registry = [.call (tokenCommand a.region) none] ++
      [.call (loginCommand (host registry a.region)) none] := rfl
  rw [moves]
  refine Follows.bind (r.follows_run a (List.cons_ne_nil _ _) none (.inr rfl)) fun done => ?_
  exact r.follows_handOver a (List.cons_ne_nil _ _) (Text.strip done.stdout) fun _ =>
    (follows_info _).after fun _ => follows_pure (host registry a.region)

/-- The loop over the registries: two moves for each, in their order. -/
lemma follows_loginEach (registries : List String) :
    (loginEach r a registries).Follows (r.manner a) id (registries.flatMap (movesFor a)) := by
  induction registries with
  | nil => exact follows_pure []
  | cons registry rest ih =>
    rw [List.flatMap_cons]
    exact (follows_loginTo r a registry).bind fun _ => ih.before fun _ => follows_pure _

lemma follows_login (registries : List String) :
    (login r a registries).Follows (r.manner a) id (registries.flatMap (movesFor a)) :=
  follows_timed _ (follows_loginEach r a registries)

end Ecr

namespace WheelBuilder

variable (w : WheelBuilder) (a : Aws)

lemma follows_wheelsIn (dist : Path) : (wheelsIn dist).Follows m id [] := by
  refine follows_state.after fun s => ?_
  cases s.files.list? dist with
  | ok names => exact follows_pure _
  | error fault => exact follows_fail _

lemma follows_inspect (dist : Path) (name : String) : (inspect dist name).Follows m id [] := by
  refine follows_state.after fun s => ?_
  rcases s.files.read? (dist.join name) with fault | _ | bytes
  · exact follows_fail _
  · exact follows_fail _
  · exact (follows_info _).after fun _ => follows_pure _

lemma follows_inspectEach (dist : Path) (names : List String) :
    (inspectEach dist names).Follows m id [] := by
  induction names with
  | nil => exact follows_pure []
  | cons name rest ih =>
    exact (follows_inspect dist name).after fun _ => ih.after fun _ => follows_pure _

lemma follows_build :
    w.build.Follows (w.runner.manner a) id [.call w.command (some w.directory.text)] := by
  refine follows_state.after fun s => (follows_wheelsIn w.dist).after fun before => ?_
  refine (follows_timed _ ?_).before fun _ => ?_
  · exact (w.runner.follows_run a (List.cons_ne_nil _ _) _ (.inl rfl)).before fun _ =>
      follows_pure ()
  · split
    · exact follows_pure []
    · exact (follows_wheelsIn w.dist).after fun after => follows_inspectEach _ _

end WheelBuilder

end ImageRelease
