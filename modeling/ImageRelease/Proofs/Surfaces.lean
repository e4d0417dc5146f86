import ImageRelease.CommandLine.Run
import ImageRelease.Proofs.Files
import ImageRelease.Proofs.Release.History
import ImageRelease.Proofs.Session.Telling
import ImageRelease.Proofs.Unicode
import ImageRelease.Service

/-!
The command line and the service.

Both start the same release, and each tells its end in a form of its own. They differ in the lines
before the release and in the word for a mode that is not given, which is empty for one and
`nightly` for the other; `release_asking` says that neither makes a difference for the release.
`surfaces_agree` says that what one surface prints is what the other one answers, for every end that
a release can have.
-/

namespace ImageRelease

open Session Act

/-! ### One release for two words -/

lemma masking_congr {j j' : List Event} (h : secretsOf j = secretsOf j') (secret : String) :
    masking j secret = masking j' secret := by
  unfold masking
  rw [h]

/-- Sessions that go on together with the same commands reach out in the same way. -/
lemma outward_of_paired {k : Pairing} {j j' : List Event} (h : Paired k j j')
    (exact : ∀ c d, k.command c d → c = d) :
    outward (j.drop k.left.length) = outward (j'.drop k.right.length) := by
  have same : ∀ e f, Event.Alike k.command e f → e = f := by
    intro e f alike
    cases alike with
    | command argv hc fate => rw [exact _ _ hc]
    | lookup => rfl
  have reached := h.outward
  generalize outward (j.drop k.left.length) = l at reached ⊢
  generalize outward (j'.drop k.right.length) = l' at reached ⊢
  induction reached with
  | nil => rfl
  | cons head _ ih => rw [same _ _ head, ih]

/-- Failures that are told alike are the same where the same is masked. -/
lemma SameFailure.eq_of_secrets {k : Pairing} {j j' : List Event} {e f : Failure}
    (h : SameFailure k j j' e f) (secrets : secretsOf k.left = secretsOf k.right) : e = f := by
  have agree : Agree [] (secretsOf k.left) (secretsOf k.right) := by
    rw [secrets]
    exact ⟨fun _ _ => .rfl, fun _ _ => rfl⟩
  exact h.eq agree nofun fun _ _ _ _ => nofun

namespace Publisher

variable (p : Publisher)

def asking (asked : Asked) : Publisher :=
  { p with asked }

variable {p} {asked : Asked}

lemma stages_asking (mode : Mode.parse asked = Mode.parse p.asked) :
    (p.asking asked).stages = p.stages := by
  have validate : (p.asking asked).validate = p.validate := by
    simp only [Publisher.validate, asking, mode]
  unfold stages
  rw [validate]
  rfl

lemma closing_asking (name : asked.nameOrNightly = p.asked.nameOrNightly) :
    (p.asking asked).closing = p.closing := by
  have result : (p.asking asked).result = p.result := by
    funext g
    simp only [Publisher.result, asking, name]
  funext start delivered
  unfold closing
  rw [result]
  rfl

lemma opened_journal (y : Publishing) : ∃ lines, outward lines = [] ∧ secretsOf lines = [] ∧
    (p.opened y).session.journal = y.session.journal ++ lines := by
  refine ⟨[.logged .info rule, .logged .info p.heading, .logged .info rule], rfl, rfl, ?_⟩
  have lines : (p.opened y).session.journal = y.session.journal ++ [.logged .info rule] ++
    [.logged .info p.heading] ++ [.logged .info rule] := rfl
  rw [lines, List.append_assoc, List.append_assoc]
  rfl

lemma secretsOf_opened (y : Publishing) :
    secretsOf (p.opened y).session.journal = secretsOf y.session.journal := by
  obtain ⟨lines, -, plain, opened⟩ := opened_journal (p := p) y
  rw [opened, secretsOf_append, plain, List.append_nil]

variable (p) in
/-- The pairing of two runs from their openings on, in which a command passes for itself only. -/
def openings (q : Publisher) (y z : Publishing) : Pairing :=
  ⟨(p.opened y).session.journal, (q.opened z).session.journal, Eq, fun _ => rfl⟩

/-- What reaches out is the same for runs that are paired from their openings on. -/
lemma outward_trace {q : Publisher} {y z : Publishing} (h : Paired (p.openings q y z)
    (p.run.run y).2.session.journal (q.run.run z).2.session.journal) :
    outward (p.trace y) = outward (q.trace z) := by
  have traced (o : Publisher) {u : Publishing}
      (h : (o.opened u).session.journal <+: (o.run.run u).2.session.journal) :
      outward (o.trace u) = outward
        ((o.run.run u).2.session.journal.drop (o.opened u).session.journal.length) := by
    obtain ⟨lines, quiet, -, opened⟩ := opened_journal (p := o) u
    obtain ⟨more, grown⟩ := h
    rw [trace, ← grown, List.drop_left, opened, List.append_assoc, List.drop_left, outward_append,
      quiet, List.nil_append]
  rw [traced p h.left_isPrefix, traced q h.right_isPrefix]
  exact outward_of_paired h fun _ _ same => same

section

variable {y z : Publishing} (world : z.session = { y.session with journal := z.session.journal })
  (progress : z.progress = y.progress)
  (secrets : secretsOf z.session.journal = secretsOf y.session.journal)
  (known : p.settings.dockerHub.password = "" ∨
    p.settings.dockerHub.password ∈ secretsOf y.session.journal)

include world progress in
lemma twins_opened :
    Publishing.Twins (p.openings (p.asking asked) y z) (p.opened y)
      ((p.asking asked).opened z) := by
  refine ⟨⟨?_, .start⟩, progress⟩
  have left : (p.opened y).session =
    { y.session with journal := (p.opened y).session.journal } := rfl
  have right : ((p.asking asked).opened z).session =
    { z.session with journal := ((p.asking asked).opened z).session.journal } := rfl
  rw [left, right, world]

include secrets known in
lemma comparable_openings : Comparable (p.openings (p.asking asked) y z) p p where
  same := rfl
  provided := rfl
  left_known := by rwa [openings, secretsOf_opened]
  right_known := by rwa [openings, secretsOf_opened, secrets]
  token _ := rfl
  login _ := rfl

include world progress secrets known in
/-- From their openings on, two runs are alike whose words for the mode mean the same. -/
lemma ends_asking (mode : Mode.parse asked = Mode.parse p.asked)
    (name : asked.nameOrNightly = p.asked.nameOrNightly) :
    Ends (p.openings (p.asking asked) y z) Publishing.session
      (Publishing.Twins (p.openings (p.asking asked) y z)) (p.run.run y)
      ((p.asking asked).run.run z) := by
  have comparable : Comparable (p.openings (p.asking asked) y z) p p :=
    comparable_openings secrets known
  have twins : Publishing.Twins (p.openings (p.asking asked) y z) (p.opened y)
      ((p.asking asked).opened z) := twins_opened world progress
  generalize p.openings (p.asking asked) y z = k at comparable twins ⊢
  have body : Join k (p.stages.onFailure fun _ => enter .failed)
      (p.stages.onFailure fun _ => enter .failed) := fun u v h =>
    Alike.onFailure (together_stages comparable u v h) (fun _ _ u v _ => together_enter .failed u v)
      (fun _ u => .refl u.session.journal) fun _ u => .refl u.session.journal
  have ends := (body.bind fun delivered =>
    p.together_closing (p.opened y).session.clock delivered) _ _ twins
  rw [run_run, run_run, stages_asking mode, closing_asking name, twins.session.clock]
  exact ends

include world progress secrets known in
/-- The lines before a run and the word for its mode make no difference. -/
lemma run_asking (mode : Mode.parse asked = Mode.parse p.asked)
    (name : asked.nameOrNightly = p.asked.nameOrNightly) :
    (p.run.run y).1 = ((p.asking asked).run.run z).1 ∧
      outward (p.trace y) = outward ((p.asking asked).trace z) := by
  have ends := ends_asking world progress secrets known mode name
  refine ⟨?_, outward_trace ends.state.session.journals⟩
  have masked : secretsOf (p.openings (p.asking asked) y z).left =
      secretsOf (p.openings (p.asking asked) y z).right := by
    rw [openings, secretsOf_opened, secretsOf_opened, secrets]
  generalize p.run.run y = left at ends ⊢
  generalize (p.asking asked).run.run z = right at ends ⊢
  cases ends with
  | ok => rfl
  | error same => rw [same.eq_of_secrets masked]

end

/-! ### Whole releases -/

def masks (p : Publisher) (j : List Event) : List Event :=
  masking j p.settings.aws.secretAccessKey ++
    masking (j ++ masking j p.settings.aws.secretAccessKey) p.settings.dockerHub.password

lemma run_prepare (s : Session) :
    p.prepare.run s = (.ok (), { s with journal := s.journal ++ p.masks s.journal }) := by
  rw [prepare, maskEach, run_bind_of_ok (run_addSecret_masking _ s), maskEach,
    run_bind_of_ok (run_addSecret_masking _ _), masks, ← List.append_assoc]
  rfl

lemma run_release (s : Session) : p.release.run s =
    ((p.run.run ⟨(p.prepare.run s).2, {}⟩).1, (p.run.run ⟨(p.prepare.run s).2, {}⟩).2.session) := by
  have prepared : p.prepare.run s = (.ok (), (p.prepare.run s).2) := by rw [run_prepare]
  rw [release, run_bind_of_ok prepared, run_within]

lemma journal_release (s : Session) : (p.release.run s).2.journal =
    s.journal ++ (p.masks s.journal ++ p.trace ⟨(p.prepare.run s).2, {}⟩) := by
  obtain ⟨new, lead, -⟩ := p.follows_run ⟨(p.prepare.run s).2, {}⟩
  rw [run_release, p.trace_eq lead, lead.journal, run_prepare, List.append_assoc]

lemma outward_masks (j : List Event) : outward (p.masks j) = [] := by
  rw [masks, outward_append, outward_masking, outward_masking, List.append_nil]

lemma masks_asking {j j' : List Event} (h : secretsOf j' = secretsOf j) :
    (p.asking asked).masks j' = p.masks j := by
  have later : secretsOf (j' ++ masking j p.settings.aws.secretAccessKey) =
      secretsOf (j ++ masking j p.settings.aws.secretAccessKey) := by
    rw [secretsOf_append, secretsOf_append, h]
  simp only [masks, asking, masking_congr h, masking_congr later]

lemma password_masked (s : Session) : p.settings.dockerHub.password = "" ∨
    p.settings.dockerHub.password ∈ secretsOf (p.prepare.run s).2.journal := by
  rw [journal_prepare]
  exact or_iff_not_imp_left.mpr fun some => mem_secretsOf_masking _ some

/-- The lines before a release and the word for its mode make no difference. -/
theorem release_asking (mode : Mode.parse asked = Mode.parse p.asked)
    (name : asked.nameOrNightly = p.asked.nameOrNightly) {s t : Session}
    (world : t = { s with journal := t.journal })
    (secrets : secretsOf t.journal = secretsOf s.journal) :
    (p.release.run s).1 = ((p.asking asked).release.run t).1 ∧
      ∃ new new', (p.release.run s).2.journal = s.journal ++ new ∧
        ((p.asking asked).release.run t).2.journal = t.journal ++ new' ∧
        outward new = outward new' := by
  have masked : (p.asking asked).masks t.journal = p.masks s.journal := masks_asking secrets
  have same : secretsOf ((p.asking asked).prepare.run t).2.journal =
      secretsOf (p.prepare.run s).2.journal := by
    simp only [run_prepare, secretsOf_append, secrets, masked]
  have prepared : ((p.asking asked).prepare.run t).2 = { (p.prepare.run s).2 with
      journal := ((p.asking asked).prepare.run t).2.journal } := by
    rw [run_prepare, run_prepare, world]
  obtain ⟨result, reached⟩ := run_asking (y := ⟨(p.prepare.run s).2, {}⟩)
    (z := ⟨((p.asking asked).prepare.run t).2, {}⟩) prepared rfl same (password_masked s) mode name
  refine ⟨by rw [run_release, run_release, result], _, _, journal_release s, journal_release t, ?_⟩
  rw [outward_append, outward_append, outward_masks, outward_masks, reached]

end Publisher

/-! ### Orders for one release -/

/-- Where the payload of the event is. -/
def eventPath (env : Env) : Path :=
  .parse (env.getD "GITHUB_EVENT_PATH" "")

/-- A command line and a call that order the same: a release from where they are, for the repository
of the environment, in the mode that both give or that neither gives. -/
structure SameOrder (env : Env) (o : CommandLine.PublishOptions) (d : Service.DispatchOrder) :
    Prop where
  here : o.root = "."
  direct : o.fromEvent = false
  repository : d.repository = env.getD "GITHUB_REPOSITORY" ""
  dryRun : d.dryRun = o.dryRun
  allowOverwrite : d.allowOverwrite = o.allowOverwrite
  mode : d.mode = o.mode ∨ o.mode = "" ∧ d.mode = Mode.nightly.name

lemma Trigger.payloadFor_eq {files : FileTree} {env : Env}
    (noFile : files.file? (eventPath env) = none) (short : files.isLong (eventPath env) = false) :
    Trigger.payloadFor files env = .ok (.obj []) := by
  have unread : files.read? (.parse (env.getD "GITHUB_EVENT_PATH" "")) = .ok none := by
    rw [FileTree.read?]
    exact (if_neg (Bool.eq_false_iff.mp short)).trans (congrArg Except.ok noFile)
  simp only [Trigger.payloadFor, unread, ite_self]

lemma Trigger.run_load {s : Session} (noFile : s.files.file? (eventPath s.env) = none)
    (short : s.files.isLong (eventPath s.env) = false) :
    ∃ t text, (Trigger.load s.env).run s = (.ok t, s.noted (.logged .info text)) ∧
      t.repository = s.env.getD "GITHUB_REPOSITORY" "" := by
  have payload : (ofExcept (payloadFor s.files s.env)).run s = (.ok (.obj []), s) := by
    rw [run_ofExcept, payloadFor_eq noFile short]
  refine ⟨⟨s.env.getD "GITHUB_EVENT_NAME" "", s.env.getD "GITHUB_REPOSITORY" "", .obj []⟩,
    "  Trigger: event=" ++ Trigger.orDash (s.env.getD "GITHUB_EVENT_NAME" "") ++ " repository=" ++
      Trigger.orDash (s.env.getD "GITHUB_REPOSITORY" ""), ?_, rfl⟩
  rw [Trigger.load, run_bind_of_ok (run_state s), run_bind_of_ok payload]
  rfl

namespace SameOrder

variable {s : Session} {o : CommandLine.PublishOptions} {d : Service.DispatchOrder}

lemma fails_of_unset {e : Failure} (unset : Settings.load s.env = .error e) (line : String) :
    (CommandLine.publish o).run s = (.error e, s) ∧
      (Service.release d).run (s.noted (.logged .info line)) =
        (.error e, s.noted (.logged .info line)) := by
  have fails (t : Session) : (ofExcept (Settings.load s.env)).run t = (.error e, t) := by
    rw [run_ofExcept, unset]
  constructor
  · rw [CommandLine.publish, run_bind_of_ok (run_state s), run_bind_of_error (fails s)]
  · rw [Service.release, run_bind_of_ok (run_state _)]
    exact run_bind_of_error (fails _)

def publisher (o : CommandLine.PublishOptions) (settings : Settings) (s : Session) : Publisher where
  asked := .word o.mode
  settings := settings
  repository := s.env.getD "GITHUB_REPOSITORY" ""
  dryRun := o.dryRun
  allowOverwrite := o.allowOverwrite
  jobId := s.jobId

variable (same : SameOrder s.env o d)

include same

lemma parse_mode : Mode.parse (.word d.mode) = Mode.parse (.word o.mode) := by
  rcases same.mode with h | ⟨none, usual⟩
  · rw [h]
  · rw [none, usual]
    rfl

lemma nameOrNightly : (Asked.word d.mode).nameOrNightly = (Asked.word o.mode).nameOrNightly := by
  rcases same.mode with h | ⟨none, usual⟩
  · rw [h]
  · rw [none, usual]
    rfl

lemma run_publish (noFile : s.files.file? (eventPath s.env) = none)
    (short : s.files.isLong (eventPath s.env) = false) {settings : Settings}
    (loaded : Settings.load s.env = .ok settings) : ∃ text, (CommandLine.publish o).run s =
      (publisher o settings s).release.run (s.noted (.logged .info text)) := by
  have loads : (ofExcept (Settings.load s.env)).run s = (.ok settings, s) := by
    rw [run_ofExcept, loaded]
  obtain ⟨t, text, told, repository⟩ := Trigger.run_load noFile short
  refine ⟨text, ?_⟩
  rw [CommandLine.publish, run_bind_of_ok (run_state s), run_bind_of_ok loads,
    run_bind_of_ok told, same.direct, same.here, repository]
  rfl

lemma run_release {settings : Settings} (loaded : Settings.load s.env = .ok settings)
    (line : String) : (Service.release d).run (s.noted (.logged .info line)) =
      ((publisher o settings s).asking (.word d.mode)).release.run
        (s.noted (.logged .info line)) := by
  have loads (t : Session) : (ofExcept (Settings.load s.env)).run t = (.ok settings, t) := by
    rw [run_ofExcept, loaded]
  rw [Service.release, run_bind_of_ok (run_state _)]
  change (ofExcept (Settings.load s.env) >>= _).run _ = _
  rw [run_bind_of_ok (loads _), same.repository, same.dryRun, same.allowOverwrite]
  rfl

/-- Both surfaces carry out the same release, each after a line of its own. -/
lemma release_eq (noFile : s.files.file? (eventPath s.env) = none)
    (short : s.files.isLong (eventPath s.env) = false) (line : String) :
    ((CommandLine.publish o).run s).1 =
        ((Service.release d).run (s.noted (.logged .info line))).1 ∧
      ∃ new new', ((CommandLine.publish o).run s).2.journal = s.journal ++ new ∧
        ((Service.release d).run (s.noted (.logged .info line))).2.journal = s.journal ++ new' ∧
        outward new = outward new' := by
  cases loaded : Settings.load s.env with
  | error e =>
    obtain ⟨left, right⟩ := fails_of_unset (o := o) (d := d) loaded line
    rw [left, right]
    exact ⟨rfl, [], [.logged .info line], (List.append_nil _).symm, rfl, rfl⟩
  | ok settings =>
    obtain ⟨text, left⟩ := same.run_publish noFile short loaded
    obtain ⟨result, new, new', ran, ran', reached⟩ := Publisher.release_asking
      (p := publisher o settings s) (s := s.noted (.logged .info text))
      (t := s.noted (.logged .info line)) same.parse_mode same.nameOrNightly rfl
      (by simp only [Session.noted, secretsOf_append]; rfl)
    rw [left, same.run_release loaded]
    refine ⟨result, [.logged .info text] ++ new, [.logged .info line] ++ new', ?_, ?_, ?_⟩
    · rw [ran, Session.noted, List.append_assoc]
    · rw [ran', Session.noted, List.append_assoc]
    · rw [outward_append, outward_append, reached]
      rfl

end SameOrder

/-! ### What is printed and what is answered -/

/-- An end of a release as both surfaces tell it: with its result, with the report of the tool that
failed, with the report of another refusal, or not at all. -/
inductive SameAnswer : Except Failure CommandLine.Answer → Except Failure Service.Answer → Prop
  | returned (r : JobResult) :
    SameAnswer (.ok { stdout := r.toJson.indented ++ "\n" }) (.ok (Service.answerWith 200 r.toJson))
  | stopped (r : Rejection) (tool : r.isToolFailure = true) :
    SameAnswer (.ok { status := 1, stderr := r.report.toJson.compact ++ "\n" })
      (.ok (Service.answerWith 502 (Service.detail r.report.toJson)))
  | refused (r : Rejection) (other : r.isToolFailure = false) :
    SameAnswer (.ok { status := 2, stderr := r.report.toJson.compact ++ "\n" })
      (.ok (Service.answerWith 422 (Service.detail r.report.toJson)))
  | escaped (e : Failure) (unforeseen : ∀ r, e ≠ .rejected r) : SameAnswer (.error e) (.error e)

/-- The command line answers with a status exactly if the service answers with another. -/
def SameStatus (x : Except Failure CommandLine.Answer) (y : Except Failure Service.Answer)
    (exit status : Nat) : Prop :=
  (∃ a, x = .ok a ∧ a.status = exit) ↔ ∃ b, y = .ok b ∧ b.status = status

lemma SameAnswer.status {x : Except Failure CommandLine.Answer}
    {y : Except Failure Service.Answer} (h : SameAnswer x y) :
    SameStatus x y 0 200 ∧ SameStatus x y 1 502 ∧ SameStatus x y 2 422 := by
  cases h <;> simp [SameStatus, Service.answerWith]

/-- What is told of the end of a release: its result or a report. -/
def told? : Except Failure JobResult → Option Json
  | .ok r => some r.toJson
  | .error (.rejected r) => some (Service.detail r.report.toJson)
  | .error _ => none

/-- The end of a release can be told: no surrogate stands alone in its result or its report. -/
def Tellable (x : Except Failure JobResult) (places : Text.Surrogate.Places := .usual) : Prop :=
  ∀ v ∈ told? x, v.Writable places

instance (x : Except Failure JobResult) (places : Text.Surrogate.Places) :
    Decidable (Tellable x places) :=
  inferInstanceAs (Decidable (∀ v ∈ told? x, v.Writable places))

variable {places : Text.Surrogate.Places}

namespace CommandLine

/-- How the command line tells an end. -/
def told : Except Failure String → Except Failure Answer
  | .ok stdout => .ok { stdout }
  | .error (.rejected r) => .ok (refusal r)
  | .error e => .error e

lemma run_answering (x : Act Session String) (s : Session) :
    ((answering x).run s).1 = told (x.run s).1 ∧
      ∃ lines, outward lines = [] ∧
        ((answering x).run s).2.journal = (x.run s).2.journal ++ lines := by
  rcases h : x.run s with ⟨e | stdout, t⟩
  · cases e with
    | rejected r =>
      simp only [answering, run_bind_of_ok (run_attempt x s), h]
      exact ⟨rfl, _, rfl, rfl⟩
    | _ =>
      simp only [answering, run_bind_of_ok (run_attempt x s), h]
      exact ⟨rfl, [], rfl, (List.append_nil _).symm⟩
  · simp only [answering, run_bind_of_ok (run_attempt x s), h]
    exact ⟨rfl, [], rfl, (List.append_nil _).symm⟩

lemma printed_of_writable {r : JobResult} (h : r.toJson.Writable places) :
    printed r places = .ok (r.toJson.indented ++ "\n") := by
  rw [printed, Json.writeFault?_of_dense _ h.2]

lemma run_publish (o : PublishOptions) (s : Session) :
    ((Invocation.publish o).run.run s).1 =
        told (((publish o).run s).1.bind (printed · s.files.places)) ∧
      ∃ lines, outward lines = [] ∧
        ((Invocation.publish o).run.run s).2.journal = ((publish o).run s).2.journal ++ lines := by
  have ended := run_answering (do Act.ofExcept (printed (← publish o) s.files.places)) s
  rw [run_bind_ofExcept] at ended
  rw [Invocation.run, run_bind_of_ok (run_state s)]
  exact ended

end CommandLine

namespace Service

/-- How the service answers the end of a release. -/
def told : Except Failure JobResult → Except Failure Answer
  | .ok r => .ok (answerWith 200 r.toJson)
  | .error (.rejected r) => .ok (refusal r)
  | .error e => .error e

/-- A release is told in a line before it and a line after it at most. -/
lemma run_dispatch (d : DispatchOrder) (s : Session) : ∃ line,
    ((dispatch d).run s).1 = told ((release d).run (s.noted (.logged .info line))).1 ∧
      ∃ lines, outward lines = [] ∧ ((dispatch d).run s).2.journal =
        ((release d).run (s.noted (.logged .info line))).2.journal ++ lines := by
  refine ⟨"[" ++ s.jobId ++ "] " ++ "POST /v1/dispatch — mode=" ++ d.mode ++ " dry_run=" ++
    (if d.dryRun then "True" else "False"), ?_⟩
  rcases h : (release d).run (s.noted (.logged .info _)) with ⟨e | r, t⟩
  · cases e with
    | rejected r =>
      simp only [dispatch, run_bind_of_ok (run_state s), run_bind_of_ok (run_info _ s),
        run_bind_of_ok (run_attempt _ _), h]
      exact ⟨rfl, _, rfl, rfl⟩
    | _ =>
      simp only [dispatch, run_bind_of_ok (run_state s), run_bind_of_ok (run_info _ s),
        run_bind_of_ok (run_attempt _ _), h]
      exact ⟨rfl, [], rfl, (List.append_nil _).symm⟩
  · simp only [dispatch, run_bind_of_ok (run_state s), run_bind_of_ok (run_info _ s),
      run_bind_of_ok (run_attempt _ _), h]
    exact ⟨rfl, _, rfl, rfl⟩

lemma write_of_writable {v : Json} (h : v.Writable places) (status : Nat) :
    (answerWith status v).write places = .ok (answerWith status v) := by
  simp only [Answer.write, answerWith, h.1, Text.utf8Fault?_eq_none_iff.mpr h.2]
  rfl

lemma write_of_not_writable {v : Json} (h : ¬v.Writable places) (status : Nat) :
    ((answerWith status v).write places).isOk = false := by
  simp only [Answer.write, answerWith]
  cases strict : v.isStrict with
  | false => rfl
  | true =>
    cases fault : Text.utf8Fault? v.dense.toList places with
    | none => exact absurd ⟨strict, Text.utf8Fault?_eq_none_iff.mp fault⟩ h
    | some _ => rfl

lemma run_answer {c : Call} (posted : c.method = "POST") (s : Session) :
    (answer c).run s =
      (((respond c).run s).1.bind (·.write s.files.places), ((respond c).run s).2) := by
  rw [answer, run_bind_of_ok (run_state s)]
  dsimp only
  rcases h : (respond c).run s with ⟨e | a, t⟩
  · rw [run_bind_of_error h]
    rfl
  · rw [run_bind_of_ok h]
    have whole (b : Answer) : (if c.method = "HEAD" then { b with body := none } else b) = b :=
      if_neg (by rw [posted]; decide)
    cases written : a.write s.files.places with
    | error e => exact congrArg (·, t) written.symm
    | ok b => exact congrArg (·, t) ((congrArg Except.ok (whole b)).trans written.symm)

end Service

lemma told_of_unforeseen {e : Failure} (unforeseen : ∀ r, e ≠ .rejected r) :
    CommandLine.told (.error e) = .error e ∧ Service.told (.error e) = .error e := by
  cases e with
  | rejected r => exact absurd rfl (unforeseen r)
  | _ => exact ⟨rfl, rfl⟩

lemma sameAnswer_told {x : Except Failure JobResult} (tellable : Tellable x places) :
    SameAnswer (CommandLine.told (x.bind (CommandLine.printed · places)))
      ((Service.told x).bind (·.write places)) := by
  rcases x with e | r
  · by_cases foreseen : ∃ r, e = .rejected r
    · obtain ⟨r, rfl⟩ := foreseen
      have written (status : Nat) := Service.write_of_writable (tellable _ rfl) status
      simp only [CommandLine.told, CommandLine.refusal, Service.told, Service.refusal, Except.bind,
        written]
      cases tool : r.isToolFailure with
      | true => exact .stopped r tool
      | false => exact .refused r tool
    · have unforeseen : ∀ r, e ≠ .rejected r := fun r h => foreseen ⟨r, h⟩
      obtain ⟨left, right⟩ := told_of_unforeseen unforeseen
      rw [Except.bind, left, right]
      exact .escaped e unforeseen
  · have written : ((Service.told (.ok r)).bind (·.write places)) =
        .ok (Service.answerWith 200 r.toJson) := Service.write_of_writable (tellable _ rfl) 200
    rw [Except.bind, CommandLine.printed_of_writable (tellable _ rfl), written]
    exact .returned r

lemma told_of_not_tellable {x : Except Failure JobResult} (h : ¬Tellable x places) :
    ((Service.told x).bind (·.write places)).isOk = false ∧
      ∀ r, x = .error (.rejected r) →
        CommandLine.told (x.bind (CommandLine.printed · places)) = .ok (CommandLine.refusal r) := by
  refine ⟨?_, fun r rejected => by rw [rejected]; rfl⟩
  have unwritable {v : Json} (tells : told? x = some v) : ¬v.Writable places := by
    intro writable
    refine h fun u hu => ?_
    rw [tells, Option.mem_some_iff] at hu
    rwa [← hu]
  cases x with
  | ok r =>
    have written := Service.write_of_not_writable (unwritable rfl) 200
    simpa only [Service.told, Except.bind] using written
  | error e =>
    by_cases foreseen : ∃ r, e = .rejected r
    · obtain ⟨r, rfl⟩ := foreseen
      simp only [Service.told, Service.refusal, Except.bind,
        Service.write_of_not_writable (unwritable rfl)]
    · refine absurd (fun v hv => ?_) h
      cases e with
      | rejected r => exact absurd ⟨r, rfl⟩ foreseen
      | _ => cases hv

/-- A command line and a call that order the same release make the same commands and the same
lookups, and get the same answer where the end of the release can be told: for every environment,
file tree, outcome of the commands and answer of the registry, where the path of the event names no
file and can be looked up. Where the end cannot be told, the service has no answer, and the command
line tells a refusal all the same. -/
theorem surfaces_agree {s : Session} {args : List String} {o : CommandLine.PublishOptions}
    {c : Service.Call} {record : List (String × Json)}
    (line : CommandLine.Invocation.read args = .ok (.publish o)) (posted : c.method = "POST")
    (dispatched : Service.Endpoint.at? c.path = some .dispatch)
    (body : Service.readBody Service.dispatchFields c.body = .ok record)
    (same : SameOrder s.env o (.ofRecord record))
    (noFile : s.files.file? (eventPath s.env) = none)
    (short : s.files.isLong (eventPath s.env) = false) :
    (Tellable ((CommandLine.publish o).run s).1 s.files.places →
        SameAnswer ((CommandLine.run args).run s).1 ((Service.answer c).run s).1 ∧
          SameStatus ((CommandLine.run args).run s).1 ((Service.answer c).run s).1 0 200 ∧
          SameStatus ((CommandLine.run args).run s).1 ((Service.answer c).run s).1 1 502 ∧
          SameStatus ((CommandLine.run args).run s).1 ((Service.answer c).run s).1 2 422) ∧
      (¬Tellable ((CommandLine.publish o).run s).1 s.files.places →
        ((Service.answer c).run s).1.isOk = false ∧
          ∀ r, ((CommandLine.publish o).run s).1 = .error (.rejected r) →
            ((CommandLine.run args).run s).1 = .ok (CommandLine.refusal r)) ∧
      ∃ new new', ((CommandLine.run args).run s).2.journal = s.journal ++ new ∧
        ((Service.answer c).run s).2.journal = s.journal ++ new' ∧ outward new = outward new' := by
  have printed : CommandLine.run args = (CommandLine.Invocation.publish o).run := by
    rw [CommandLine.run, line]
  have responded : Service.respond c = Service.dispatch (.ofRecord record) := by
    have method : c.method = Service.Endpoint.dispatch.method := posted
    simp only [Service.respond, dispatched, method, ne_eq, not_true_eq_false, ↓reduceIte,
      Service.withBody, body]
  obtain ⟨left, lines, quiet, journal⟩ := CommandLine.run_publish o s
  obtain ⟨announced, right, lines', quiet', journal'⟩ := Service.run_dispatch (.ofRecord record) s
  obtain ⟨result, new, new', ran, ran', reached⟩ := same.release_eq noFile short announced
  rw [printed, Service.run_answer posted, responded]
  refine ⟨fun tellable => ?_, fun untold => ?_, new ++ lines, new' ++ lines', ?_, ?_, ?_⟩
  · rw [left, right, ← result]
    have told := sameAnswer_told tellable
    exact ⟨told, told.status⟩
  · rw [left, right, ← result]
    exact told_of_not_tellable untold
  · rw [journal, ran, List.append_assoc]
  · rw [journal', ran', List.append_assoc]
  · rw [outward_append, outward_append, quiet, quiet', reached]

/-- A session with the credentials of all registries, in which an event may be told. -/
def Session.provided (event : List (String × String)) : Session :=
  { Session.still [] (.response {}) with
    env := [("AWS_ACCESS_KEY_ID", "key"), ("AWS_SECRET_ACCESS_KEY", "Zq8"),
      ("DOCKER_USERNAME", "user"), ("DOCKER_PASSWORD", "Qx9")] ++ event }

def Service.plainOrder : Service.Call :=
  ⟨"POST", Service.Endpoint.dispatch.path.toList, Text.Utf8.encode ['\x7b', '\x7d']⟩

lemma ok_of_toOption {ε α : Type} {x : Except ε α} {a : α} (h : x.toOption = some a) :
    x = .ok a := by
  cases x with
  | error e => cases h
  | ok b => rw [Option.some.inj h]

lemma read_publish : CommandLine.Invocation.read ["publish"] = .ok (.publish {}) :=
  ok_of_toOption (by decide +kernel)

lemma Service.read_plainOrder : ∃ record,
    readBody dispatchFields plainOrder.body = .ok record ∧
      DispatchOrder.ofRecord record = ⟨"nightly", "", false, false⟩ := by
  have read : (readBody dispatchFields plainOrder.body).toOption.map DispatchOrder.ofRecord =
      some ⟨"nightly", "", false, false⟩ := by decide +kernel
  obtain ⟨record, found, order⟩ := Option.map_eq_some_iff.mp read
  exact ⟨record, ok_of_toOption found, order⟩

lemma sameOrder_provided (path : String) :
    SameOrder (Session.provided [("GITHUB_EVENT_PATH", path)]).env {}
      ⟨"nightly", "", false, false⟩ :=
  ⟨rfl, rfl, rfl, rfl, rfl, .inr ⟨rfl, rfl⟩⟩

def Session.bare : Session :=
  { Session.still [] (.response {}) with env := [("GITHUB_EVENT_PATH", "event.json")] }

/-- Neither surface is given a mode, and both refuse a release without credentials. -/
theorem surfaces_agree_usual :
    SameOrder Session.bare.env {} ⟨"nightly", "", false, false⟩ ∧
      Tellable ((CommandLine.publish {}).run .bare).1 ∧
      SameAnswer ((CommandLine.run ["publish"]).run .bare).1
        ((Service.answer Service.plainOrder).run .bare).1 := by
  obtain ⟨record, body, order⟩ := Service.read_plainOrder
  have same : SameOrder Session.bare.env {} ⟨"nightly", "", false, false⟩ :=
    ⟨rfl, rfl, rfl, rfl, rfl, .inr ⟨rfl, rfl⟩⟩
  have tellable : Tellable ((CommandLine.publish {}).run .bare).1 := by decide +kernel
  refine ⟨same, tellable, ?_⟩
  rw [← order] at same
  exact ((surfaces_agree (s := .bare) read_publish rfl (Service.Endpoint.at?_path .dispatch) body
    same (by decide +kernel) (by decide +kernel)).1 tellable).1

/-! ### An event out of reach -/

lemma Path.parse_name {l : List Char} (whole : Text.fields '/' l = [l])
    (here : anchorOf l = .here)
    (leads : (String.ofList l != "" && String.ofList l != ".") = true) :
    parse (String.ofList l) = ⟨.here, [String.ofList l]⟩ := by
  unfold parse namesOf
  rw [String.toList_ofList, here, whole]
  simpa using leads

lemma FileTree.isLong_name {t : FileTree} {l : List Char}
    (long : nameLimit < Text.systemSize (String.ofList l) t.places)
    (given : Text.isForSystem (String.ofList l) t.places = true) :
    t.isLong ⟨.here, [String.ofList l]⟩ = true := by
  have here : t.leadsOn (.inside []) = true := by simp [leadsOn, at?]
  simp [isLong, meetsLongName, long, given, here]

/-- A session in which the path of the event is one long name. -/
def Session.longEvent : Session :=
  .provided [("GITHUB_EVENT_PATH", .ofList (List.replicate 300 'a'))]

lemma eventPath_longEvent :
    eventPath Session.longEvent.env = ⟨.here, [.ofList (List.replicate 300 'a')]⟩ :=
  Path.parse_name (by decide +kernel) (by decide +kernel) (by decide +kernel)

lemma isLong_longEvent (files : FileTree) :
    files.isLong (eventPath Session.longEvent.env) = true := by
  rw [eventPath_longEvent]
  refine FileTree.isLong_name ?_
    (Text.isForSystem_of_common (by decide +kernel) (by decide +kernel))
  rw [Text.systemSize_of_common (by decide +kernel)]
  decide +kernel

/-- A path of the event that cannot be looked up stops the command line before anything is done. -/
lemma CommandLine.publish_longName {s : Session} {settings : Settings}
    (loaded : Settings.load s.env = .ok settings)
    (long : s.files.isLong (eventPath s.env) = true) (o : PublishOptions) :
    (publish o).run s = (.error (.longName (eventPath s.env).text), s) := by
  have set : s.env.getD "GITHUB_EVENT_PATH" "" ≠ "" := by
    intro empty
    rw [eventPath, empty] at long
    exact Bool.false_ne_true (s.files.isLong_nothing.symm.trans long)
  have unread : s.files.read? (.parse (s.env.getD "GITHUB_EVENT_PATH" "")) =
      .error ⟨(eventPath s.env).text⟩ := if_pos long
  have payload : Trigger.payloadFor s.files s.env = .error (.longName (eventPath s.env).text) := by
    simp only [Trigger.payloadFor, set, unread, ↓reduceIte]
  have trigger : (Trigger.load s.env).run s = (.error (.longName (eventPath s.env).text), s) := by
    rw [Trigger.load, run_bind_of_ok (run_state s), run_bind_of_error]
    rw [run_ofExcept, payload]
  have loads : (Act.ofExcept (Settings.load s.env)).run s = (.ok settings, s) := by
    rw [run_ofExcept, loaded]
  rw [publish, run_bind_of_ok (run_state s), run_bind_of_ok loads, run_bind_of_error trigger]

lemma Service.written_ne_longName {x : Except Failure Answer} (answered : x.isOk = true)
    (path : String) : x.bind (·.write places) ≠ .error (.longName path) := by
  rcases x with e | a
  · cases answered
  · intro h
    simp only [Except.bind, Answer.write] at h
    split at h
    · cases h
    · split at h
      · cases h
      · split at h <;> cases h

lemma SameAnswer.eq_error {e : Failure} {y : Except Failure Service.Answer}
    (h : SameAnswer (.error e) y) : y = .error e := by
  cases h
  rfl

lemma stopped_longEvent : ((CommandLine.run ["publish"]).run .longEvent).1 =
    .error (.longName (eventPath Session.longEvent.env).text) := by
  have printed : CommandLine.run ["publish"] = (CommandLine.Invocation.publish {}).run := by
    rw [CommandLine.run, read_publish]
  have loads : (Settings.load Session.longEvent.env).isOk = true := by decide +kernel
  rcases loaded : Settings.load Session.longEvent.env with e | settings
  · rw [loaded] at loads
    cases loads
  · rw [printed, (CommandLine.run_publish {} .longEvent).1,
      CommandLine.publish_longName loaded (isLong_longEvent _)]
    rfl

lemma responded_longEvent :
    ((Service.respond Service.plainOrder).run .longEvent).1.isOk = true := by
  decide +kernel

/-- A path of the event with a name that is too long names no file, but stops the command line. -/
theorem surfaces_agree_long_event :
    Session.longEvent.files.file? (eventPath Session.longEvent.env) = none ∧
      CommandLine.Invocation.read ["publish"] = .ok (.publish {}) ∧
      (∃ record, Service.readBody Service.dispatchFields Service.plainOrder.body = .ok record ∧
        SameOrder Session.longEvent.env {} (.ofRecord record)) ∧
      ¬ SameAnswer ((CommandLine.run ["publish"]).run .longEvent).1
        ((Service.answer Service.plainOrder).run .longEvent).1 := by
  refine ⟨?_, read_publish, ?_, fun same => ?_⟩
  · rw [eventPath_longEvent]
    decide +kernel
  · obtain ⟨record, body, order⟩ := Service.read_plainOrder
    exact ⟨record, body, order ▸ sameOrder_provided _⟩
  · rw [stopped_longEvent, Service.run_answer rfl] at same
    exact Service.written_ne_longName responded_longEvent _ same.eq_error

end ImageRelease
