import ImageRelease.Proofs.Masking
import ImageRelease.Proofs.Release.History

/-!
Secrets and when they are masked.

Whatever secret a command is handed is masked before that, in every run of a publisher: the steps of
a session ask for it, and the secrets of the settings are masked when the publisher is made. A tool
that exits with a status other than zero leaves a line and a failure, and none of the secrets that
are masked by then comes up in either.
-/

namespace ImageRelease

open Session Act

/-! ### Calls in a journal -/

/-- Something holds of every command that was started, between what stands before it and what stands
after it. -/
def EachCall (P : List Event → Command → Ending → List Event → Prop) (journal : List Event) :
    Prop :=
  ∀ old c e new, journal = old ++ .command c (.started e) :: new → P old c e new

lemma EachCall.append {P : List Event → Command → Ending → List Event → Prop}
    {journal more : List Event} (h : EachCall P journal)
    (keep : ∀ old c e new, P old c e new → P old c e (new ++ more))
    (own : ∀ old c e new, more = old ++ .command c (.started e) :: new →
      P (journal ++ old) c e new) : EachCall P (journal ++ more) := by
  intro old c e new heq
  rcases List.append_eq_append_iff.mp heq with ⟨between, rfl, hm⟩ | ⟨rest, rfl, hr⟩
  · exact own between c e new hm
  · rcases rest with _ | ⟨event, rest⟩
    · simpa using own [] c e new hr.symm
    · obtain ⟨rfl, rfl⟩ := List.cons.inj hr
      exact keep _ _ _ _ (h _ _ _ _ rfl)

/-- What a command is handed is masked: the text for its input, and the key in its environment. -/
structure Command.Covered (c : Command) (known : List String) : Prop where
  input : ∀ text, c.input = some text → text = "" ∨ text ∈ known
  env : ∀ env secret, c.env = some env →
    Entries.get? "AWS_SECRET_ACCESS_KEY" env = some secret → secret ∈ known

lemma Aws.key_environment (a : Aws) (base : Env) :
    Entries.get? "AWS_SECRET_ACCESS_KEY" (Entries.merge base a.environment) =
      some a.secretAccessKey := by
  simp [Entries.merge, environment]

lemma Session.Step.covered {m : Manner} {s t : Session} {c : Command} {e : Ending}
    (h : Step m s (.command c (.started e)) t) (known : m.aws.secretAccessKey ∈ s.secrets) :
    c.Covered (secretsOf s.journal) := by
  cases h with
  | started c earnest input env =>
    refine ⟨input, fun given secret hg hs => ?_⟩
    rcases env with none | merged
    · rw [none] at hg
      cases hg
    · rw [merged, Option.some.injEq] at hg
      rw [← hg, m.aws.key_environment, Option.some.injEq] at hs
      rw [← hs]
      exact known

lemma Session.Leads.covered {m : Manner} {s t : Session} {new : List Event} (h : s.Leads m new t)
    (known : ∀ c e, .command c (.started e) ∈ new → m.aws.secretAccessKey ∈ s.secrets)
    (before : EachCall (fun old c _ _ => c.Covered (secretsOf old)) s.journal) :
    EachCall (fun old c _ _ => c.Covered (secretsOf old)) t.journal := by
  induction h with
  | nil => exact before
  | @cons s t u event new step _ ih =>
    refine ih (fun c e hc => ?_) ?_
    · exact (Leads.single step).mem_secrets (known c e (List.mem_cons_of_mem _ hc))
    · rw [step.journal]
      refine before.append (fun _ _ _ _ hc => hc) fun old c e rest heq => ?_
      obtain ⟨rfl, rfl, rfl⟩ : old = [] ∧ .command c (.started e) = event ∧ rest = [] := by
        simpa [List.singleton_eq_append_iff] using heq
      rw [List.append_nil]
      exact step.covered (known c e List.mem_cons_self)

/-! ### Tools that fail -/

/-- After a call that exited with a status other than zero stands the line about it. -/
def Answered (old : List Event) (c : Command) (e : Ending) (new : List Event) : Prop :=
  ∀ status stdout stderr, e = .exited status stdout stderr → status ≠ 0 →
    ∃ rest, new = exitLine old c status stderr :: rest

lemma answered_append {journal more : List Event} (h : EachCall Answered journal)
    (own : ∀ old c e new, more = old ++ .command c (.started e) :: new →
      Answered (journal ++ old) c e new) : EachCall Answered (journal ++ more) := by
  refine h.append (fun old c e new answered status stdout stderr he bad => ?_) own
  obtain ⟨rest, rfl⟩ := answered status stdout stderr he bad
  exact ⟨rest ++ more, rfl⟩

lemma command_not_mem_complaint (journal : List Event) (c d : Command) (fate fate' : Fate) :
    .command d fate' ∉ complaint journal c fate := by
  unfold complaint
  split
  · split <;> simp [exitLine]
  · simp

/-- In the block of a command the call stands second, and the line about it third. -/
lemma answered_block {journal old new : List Event} {lead : String} {c d : Command} {fate : Fate}
    {e : Ending} (h : block journal lead c fate = old ++ .command d (.started e) :: new) :
    Answered (journal ++ old) d e new := by
  rcases old with _ | ⟨line, _ | ⟨call, rest⟩⟩
  · cases h
  · simp only [block, List.cons_append, List.nil_append, List.cons.injEq, Event.command.injEq] at h
    obtain ⟨rfl, ⟨rfl, rfl⟩, rfl⟩ := h
    rintro status stdout stderr rfl bad
    refine ⟨[], ?_⟩
    simp [complaint, bad, exitLine, secretsOf, Event.secret?, List.filterMap_cons]
  · simp only [block, List.cons_append, List.cons.injEq] at h
    refine absurd ?_ (command_not_mem_complaint journal c d fate (.started e))
    rw [h.2.2]
    exact List.mem_append_right _ List.mem_cons_self

variable {k : Pairing} {j j' : List Event}

lemma Paired.answered (h : Paired k j j') (start : EachCall Answered k.left) :
    EachCall Answered j := by
  have nothing {event : Event} (quiet : event.call? = none) {old new : List Event} {c : Command}
      {e : Ending} (h : [event] = old ++ .command c (.started e) :: new) : False := by
    obtain ⟨rfl, rfl, rfl⟩ : old = [] ∧ .command c (.started e) = event ∧ new = [] := by
      simpa [List.singleton_eq_append_iff] using h
    cases quiet
  induction h with
  | start => exact start
  | logged h level text ih =>
    exact answered_append ih fun _ _ _ _ heq => (nothing rfl heq).elim
  | lookup h url reply ih =>
    exact answered_append ih fun _ _ _ _ heq => (nothing rfl heq).elim
  | learned h ht ih =>
    refine answered_append ih fun old c e new heq => ?_
    unfold masking at heq
    split at heq
    · simp at heq
    · exact (nothing rfl heq).elim
  | command h lead argv alike fate ih =>
    exact answered_append ih fun _ _ _ _ heq => answered_block heq

/-- A failure that tells of a tool comes from the last command, and nothing is masked after it. -/
lemma SameFailure.exit {e f : Failure} (h : SameFailure k j j' e f) {exit : ToolExit}
    (he : e = .rejected (.tool (.exited exit))) :
    ∃ stderr, exit.stderr = redact [stderr] (secretsOf j) := by
  cases h with
  | same _ plain =>
    rw [he] at plain
    cases plain
  | @exited _ _ _ _ _ _ _ _ _ stderr _ left _ =>
    simp only [exitFailure, Failure.rejected.injEq, Rejection.tool.injEq,
      ToolFault.exited.injEq] at he
    obtain rfl := he
    refine ⟨stderr, ?_⟩
    rw [left.secretsOf, secretsOf_append, secretsOf_block, List.append_nil]

lemma Act.Ends.exit {σ α : Type} {view : σ → Session} {R : σ → σ → Prop}
    {x y : Except Failure α × σ} (h : Ends k view R x y) {exit : ToolExit}
    (hx : x.1 = .error (.rejected (.tool (.exited exit)))) :
    ∃ stderr, exit.stderr = redact [stderr] (view x.2).secrets := by
  cases h with
  | ok => cases hx
  | error hf => exact hf.exit (Except.error.inj hx)

/-! ### What is told -/

lemma Hidden.lastChars {secret text : String} (h : Hidden secret text) (n : Nat) :
    Hidden secret (Text.lastChars n text) :=
  h.of_infix (Text.lastChars_suffix n text).isInfix

lemma Hidden.strip {secret text : String} (h : Hidden secret text) :
    Hidden secret (Text.strip text) :=
  h.of_infix (Text.strip_infix text)

lemma Hidden.detail {secret : String} {exit : ToolExit} (h : Hidden secret exit.stderr)
    {detail : String} (hd : (ToolFault.exited exit).report.detail = .str detail) :
    Hidden secret detail := by
  simp only [ToolFault.report, textDetail] at hd
  split at hd
  · cases hd
  · rw [← Json.str.inj hd]
    exact h.lastChars _

/-- A command that exits with a status other than zero raises a failure that tells of it, and masks
nothing. -/
lemma Runner.run_exited {r : Runner} (real : r.dryRun = false) {argv : List String} (ne : argv ≠ [])
    (cwd : Option String) (overrides : Env) (input : Option String) {s : Session} {status : Int}
    {stdout stderr : String} (ends : s.nextOutcome.ending = .exited status stdout stderr)
    (bad : status ≠ 0) :
    ∃ exit t, (r.run argv cwd overrides input).run s =
        (.error (.rejected (.tool (.exited exit))), t) ∧
      exit.stderr = redact [stderr] s.secrets ∧ t.secrets = s.secrets := by
  rw [run_started real ne, ends]
  simp only [conclusion, bad, ↓reduceIte, exitFailure]
  refine ⟨_, _, rfl, rfl, ?_⟩
  rw [secrets_eq, secrets_eq, secretsOf_append, secretsOf_block, List.append_nil]

namespace Publisher

variable (p : Publisher)

/-! ### Runs -/

lemma given_of_started {y : Publishing} {new : List Event} {ok : Bool}
    (lead : y.session.Leads p.manner new (p.run.run y).2.session)
    (along : Along (p.plan y.session) new ok) {c : Command} {e : Ending}
    (hc : .command c (.started e) ∈ new) : p.settings.missingCredentials = [] := by
  have real : p.dryRun = false := lead.earnest hc
  have admitted : p.Admitted := by
    by_contra barred
    have moves := along.moves
    rw [plan, earlyPlan, latePlan, if_neg barred, if_neg barred] at moves
    cases movesOf_eq_nil.mp (List.prefix_nil.mp moves) _ hc
  exact admitted.2.2.resolve_left (by rw [real]; exact Bool.false_ne_true)

lemma command_not_mem_made (c : Command) (fate : Fate) :
    .command c fate ∉ p.made.session.journal := by
  rw [journal_made]
  unfold masking
  split <;> split <;> simp

lemma eachCall_made (P : List Event → Command → Ending → List Event → Prop) :
    EachCall P p.made.session.journal := by
  intro old c e new heq
  refine absurd ?_ (p.command_not_mem_made c (.started e))
  rw [heq]
  exact List.mem_append_right _ List.mem_cons_self

lemma covered_after (runs : List Session) :
    EachCall (fun old c _ _ => c.Covered (secretsOf old)) (p.after runs).session.journal := by
  induction runs using List.reverseRecOn with
  | nil => exact p.eachCall_made _
  | append_singleton earlier world ih =>
    obtain ⟨new, lead, along⟩ := p.follows_run (p.onTurn earlier world)
    rw [after_concat]
    refine lead.covered (fun c e hc => ?_) ih
    have given := p.given_of_started lead along hc
    exact p.secretAccessKey_known (Settings.credentials_given given).1 earlier

lemma run_alone (earlier : List Session) (world : Session) :
    let y := p.onTurn earlier world
    let k : Pairing := ⟨y.session.journal, y.session.journal, fun _ _ => True, fun _ => trivial⟩
    Ends k Publishing.session (Publishing.Twins k) (p.run.run y) (p.run.run y) := by
  have known : p.settings.dockerHub.password = "" ∨
      p.settings.dockerHub.password ∈ secretsOf (p.after earlier).session.journal := by
    by_cases h : p.settings.dockerHub.password = ""
    · exact .inl h
    · exact .inr (p.password_known h earlier)
  exact together_run ⟨rfl, rfl, known, known, fun _ => trivial, fun _ => trivial⟩ _ _
    ⟨⟨rfl, .start⟩, rfl⟩

lemma answered_after (runs : List Session) :
    EachCall Answered (p.after runs).session.journal := by
  induction runs using List.reverseRecOn with
  | nil => exact p.eachCall_made _
  | append_singleton earlier world ih =>
    rw [after_concat]
    exact (p.run_alone earlier world).state.session.journals.answered ih

/-- **Registration**: in every run of a publisher, what a command is handed is masked by then: the
text for its input, unless it is empty, and the key in its environment. Where a command exits with
a status other than zero, a failure that tells of it is raised, the line about it comes next, and
the run fails. Nothing that was masked by then, and that a mask hides, occurs in the end of the
error stream that the line shows, in the detail of the failure that is raised, or in that of the
failure that ends the run. -/
theorem secrets_registered (earlier : List Session) (world : Session) :
    let y := p.onTurn earlier world
    let z := (p.run.run y).2.session
    (∀ old c e new, z.journal = old ++ .command c (.started e) :: new →
        c.Covered (secretsOf old)) ∧
      (∀ old c status stdout stderr new,
        z.journal = old ++ .command c (.started (.exited status stdout stderr)) :: new →
        status ≠ 0 →
        ∃ tail rest, new = .logged .error ("  " ++ baseName (c.argv.headD "") ++ " returned " ++
            toString status ++ ": " ++ tail) :: rest ∧
          tail = Text.lastChars logLimit (Text.strip (redact [stderr] (secretsOf old))) ∧
          ∀ secret ∈ secretsOf old, Maskable secret → Hidden secret tail) ∧
      (∀ argv cwd overrides input (s : Session) status stdout stderr, p.dryRun = false →
        argv ≠ [] → s.nextOutcome.ending = .exited status stdout stderr → status ≠ 0 →
        ∃ exit t, (p.runner.run argv cwd overrides input).run s =
            (.error (.rejected (.tool (.exited exit))), t) ∧
          ∀ secret ∈ t.secrets, Maskable secret →
          ∀ detail, (ToolFault.exited exit).report.detail = .str detail → Hidden secret detail) ∧
      (∀ c status stdout stderr,
        .command c (.started (.exited status stdout stderr)) ∈ p.trace y → status ≠ 0 →
        ∃ e, (p.run.run y).1 = .error e) ∧
      (∀ exit, (p.run.run y).1 = .error (.rejected (.tool (.exited exit))) →
        ∀ secret ∈ z.secrets, Maskable secret →
        ∀ detail, (ToolFault.exited exit).report.detail = .str detail → Hidden secret detail) := by
  intro y z
  have covered := p.covered_after (earlier ++ [world])
  have answered := p.answered_after (earlier ++ [world])
  rw [after_concat] at covered answered
  refine ⟨covered, fun old c status stdout stderr new heq bad => ?_,
    fun argv cwd overrides input s status stdout stderr real ne ends bad => ?_,
    fun c status stdout stderr hc bad => ?_, fun exit he secret hs some detail hd => ?_⟩
  · obtain ⟨rest, rfl⟩ := answered old c _ new heq status stdout stderr rfl bad
    refine ⟨_, rest, rfl, rfl, fun secret hs some => ?_⟩
    exact (hidden_masked some hs stderr).strip.lastChars _
  · obtain ⟨exit, t, raised, told, same⟩ :=
      Runner.run_exited (r := p.runner) real ne cwd overrides input ends bad
    refine ⟨exit, t, raised, fun secret hs some detail hd => Hidden.detail ?_ hd⟩
    rw [told]
    rw [same] at hs
    exact hidden_masked some hs stderr
  · obtain ⟨new, lead, along⟩ := p.follows_run y
    rw [p.trace_eq lead] at hc
    have stopped := along.stopped _ hc bad
    cases hr : (p.run.run y).1 with
    | error e => exact ⟨e, rfl⟩
    | ok result => rw [hr] at stopped; cases stopped
  · obtain ⟨stderr, told⟩ := (p.run_alone earlier world).exit he
    refine Hidden.detail ?_ hd
    rw [told]
    exact hidden_masked some hs stderr

/-- What is told of the tool that ended a run, if one did. -/
def exitOf : Except Failure JobResult → Option ToolExit
  | .error e => e.exit?
  | .ok _ => none

lemma exitOf_eq_some {r : Except Failure JobResult} {exit : ToolExit} (h : exitOf r = some exit) :
    r = .error (.rejected (.tool (.exited exit))) := by
  unfold exitOf Failure.exit? at h
  split at h
  · split at h <;> cases h
    rfl
  · cases h

/-- A world in which the login to a registry complains about its token. -/
def complaining : Session :=
  .still [.exited 0 "" "", .exited 0 "tok\n" "", .exited 1 "" "no Zq8 with tok"] (.response {})

/-- The token that was fetched is masked in the detail of the failed login. -/
theorem secrets_registered_usual :
    "tok" ∈ ((usual "Zq8" "Qx9" ["1"]).run.run
        ((usual "Zq8" "Qx9" ["1"]).onTurn [] complaining)).2.session.secrets ∧
      ∃ exit, ((usual "Zq8" "Qx9" ["1"]).run.run
          ((usual "Zq8" "Qx9" ["1"]).onTurn [] complaining)).1 =
            .error (.rejected (.tool (.exited exit))) ∧
        ∀ detail, (ToolFault.exited exit).report.detail = .str detail → Hidden "tok" detail := by
  have learned : "tok" ∈ ((usual "Zq8" "Qx9" ["1"]).run.run
      ((usual "Zq8" "Qx9" ["1"]).onTurn [] complaining)).2.session.secrets := by decide +kernel
  have failed : (exitOf ((usual "Zq8" "Qx9" ["1"]).run.run
      ((usual "Zq8" "Qx9" ["1"]).onTurn [] complaining)).1).isSome = true := by decide +kernel
  obtain ⟨exit, he⟩ := Option.isSome_iff_exists.mp failed
  have raised := exitOf_eq_some he
  have registered := secrets_registered (usual "Zq8" "Qx9" ["1"]) [] complaining
  exact ⟨learned, exit, raised, registered.2.2.2.2 exit raised "tok" learned (by decide)⟩

end Publisher

end ImageRelease
