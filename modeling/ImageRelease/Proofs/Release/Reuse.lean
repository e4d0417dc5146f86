import ImageRelease.Proofs.Release.OneVersion
import ImageRelease.Proofs.Session.Peers

/-!
A publisher used again.

A run reads nothing of what earlier runs have left: every part of the progress is overwritten before
it is told, and warnings and timings are only added to. `Publishing.Peers` keeps a publisher on a
par with another one, with the part of the progress that they have in common by then; it grows
stage by stage. `used_again` says that whatever runs came before, a run does and tells what the
first run of a new publisher does and tells in the same world.
-/

namespace ImageRelease

open Session Act

/-- What is told of a stage but for its time. -/
def StageTiming.told (t : StageTiming) : Stage × StageStatus × String :=
  (t.stage, t.status, t.detail)

/-- Nothing of the progress. -/
def Progress.nothing (_ : Progress) : Unit := ()

/-- What a result tells of where a run came to, once it has delivered. -/
def Progress.delivery (g : Progress) :
    JobState × Option (Option Mode × Option Request × List Artifact × Option Selection) :=
  (g.state,
    if g.state = .delivered then some (g.mode, g.request, g.artifacts, g.selection) else none)

/-- Two publishers that have gone on from two others, on a par, and with one part of their progress
in common. -/
structure Publishing.Peers {β : Type} (x x' : Publishing) (part : Progress → β)
    (y z : Publishing) : Prop where
  sessions : x.session.Peers x'.session y.session z.session
  warnings : ∃ new, y.progress.warnings = x.progress.warnings ++ new ∧
    z.progress.warnings = x'.progress.warnings ++ new
  timings : ∃ new new', y.progress.timings = x.progress.timings ++ new ∧
    z.progress.timings = x'.progress.timings ++ new' ∧
    new.map StageTiming.told = new'.map StageTiming.told
  common : part y.progress = part z.progress

/-- Two actions keep two publishers on a par; what they have in common becomes another part. -/
abbrev Act.Abreast {α β γ : Type} (x x' : Publishing) (part : Progress → β) (part' : Progress → γ)
    (a b : Act Publishing α) : Prop :=
  Parallel (Publishing.Peers x x' part) (Publishing.Peers x x' part')
    (Publishing.Peers x x' Progress.nothing) a b

section

variable {α β γ : Type} {x x' y z : Publishing} {P : Progress → β} {Q : Progress → γ}

lemma Publishing.Peers.less (h : Peers x x' P y z) :
    Peers x x' Progress.nothing y z :=
  ⟨h.sessions, h.warnings, h.timings, rfl⟩

lemma abreast_inSession {a b : Act Session α}
    (h : Session.Parallel x.session x'.session a b) :
    Abreast x x' P P (inSession a) (inSession b) := by
  intro y z hyz
  have ends := h y.session z.session hyz.sessions
  rw [inSession, inSession, run_within, run_within]
  generalize a.run y.session = left at ends ⊢
  generalize b.run z.session = right at ends ⊢
  cases ends with
  | ok v hs => exact .ok v ⟨hs, hyz.warnings, hyz.timings, hyz.common⟩
  | error same hs => exact .error same ⟨hs, hyz.warnings, hyz.timings, rfl⟩

lemma abreast_fail {e f : Failure} (same : e.outline = f.outline) :
    Abreast x x' P Q (.fail e : Act Publishing α) (.fail f) :=
  parallel_fail same fun _ _ h => h.less

lemma abreast_ofExcept (r : Except Failure α) : Abreast x x' P P (.ofExcept r) (.ofExcept r) :=
  parallel_ofExcept r fun _ _ h => h.less

lemma abreast_ofRejection (r : Except Rejection α) :
    Abreast x x' P P (.ofRejection r) (.ofRejection r) :=
  parallel_ofRejection r fun _ _ h => h.less

lemma abreast_update {E : Publishing → Publishing → Prop} {f : Progress → Progress}
    (warnings : ∀ g, (f g).warnings = g.warnings) (timings : ∀ g, (f g).timings = g.timings)
    (common : ∀ g h, P g = P h → Q (f g) = Q (f h)) :
    Parallel (Publishing.Peers x x' P) (Publishing.Peers x x' Q) E (update f) (update f) :=
    fun y z hyz => by
  refine .ok () ⟨hyz.sessions, ?_, ?_, common _ _ hyz.common⟩
  · rw [warnings, warnings]
    exact hyz.warnings
  · rw [timings, timings]
    exact hyz.timings

lemma abreast_warn (text : String)
    (kept : ∀ g text, P { g with warnings := text } = P g) :
    Abreast x x' P P (warn text) (warn text) := fun y z hyz => by
  obtain ⟨new, left, right⟩ := hyz.warnings
  refine .ok () ⟨hyz.sessions, ⟨new ++ [text], ?_, ?_⟩, hyz.timings, ?_⟩
  · rw [← List.append_assoc, ← left]
  · rw [← List.append_assoc, ← right]
  · exact (kept y.progress _).trans (hyz.common.trans (kept z.progress _).symm)

/-- Two readings of the clocks that may be told. -/
structure Publishing.Read (x x' : Publishing) (start start' : Float) : Prop where
  left : x.session.MayShow start
  right : x'.session.MayShow start'

lemma abreast_now {f g : Float → Act Publishing α}
    (h : ∀ start start', Publishing.Read x x' start start' →
      Abreast x x' P Q (f start) (g start')) :
    Abreast x x' P Q (now >>= f) (now >>= g) := fun y z hyz =>
  h _ _ ⟨hyz.sessions.left _ (mayShow_clock _), hyz.sessions.right _ (mayShow_clock _)⟩ y z hyz

/-- Where the clocks are sound, stages are recorded alike but for their times. -/
lemma abreast_recordStage (timely : x.session.Timely) (timely' : x'.session.Timely)
    {start start' : Float} (read : Publishing.Read x x' start start')
    (kept : ∀ g t, P (Progress.timed g t) = P g) (stage : Stage) (status : StageStatus)
    {detail detail' : String} (same : detail = detail') :
    Abreast x x' P P (recordStage stage start status detail)
      (recordStage stage start' status detail') := fun y z hyz => by
  obtain ⟨time, left⟩ := recordStage_sure (y := y) timely read.left
    (hyz.sessions.left _ (mayShow_clock _)) stage status detail
  obtain ⟨time', right⟩ := recordStage_sure (y := z) timely' read.right
    (hyz.sessions.right _ (mayShow_clock _)) stage status detail'
  obtain ⟨new, new', hl, hr, told⟩ := hyz.timings
  rw [left, right]
  refine .ok () ⟨hyz.sessions.grow rfl, hyz.warnings,
    ⟨new ++ [⟨stage, time, status, detail⟩], new' ++ [⟨stage, time', status, detail'⟩],
      ?_, ?_, ?_⟩, ?_⟩
  · rw [← List.append_assoc, ← hl]
    rfl
  · rw [← List.append_assoc, ← hr]
    rfl
  · rw [List.map_append, List.map_append, told, same]
    rfl
  · exact (kept y.progress _).trans (hyz.common.trans (kept z.progress _).symm)

end

namespace Publisher

lemma parallel_checkUnreleased {o o' : Session} (p : Publisher) (s : Selection) :
    Session.Parallel o o' (p.checkUnreleased s) (p.checkUnreleased s) := by
  unfold checkUnreleased
  split
  · exact parallel_info _ _
  · refine (parallel_ofExcept _ fun _ _ h => h).bind fun reference => ?_
    refine (Hub.parallel_exists? _ _ _).bind fun found => ?_
    split
    · exact parallel_fail rfl fun _ _ h => h
    · exact parallel_pure _

end Publisher

section

variable {α β γ δ : Type} {x x' : Publishing} {P : Progress → β} {Q : Progress → γ}
  {R : Progress → δ}

lemma abreast_enter {E : Publishing → Publishing → Prop} (state : JobState)
    (common : ∀ g h, P g = P h → Q { g with state } = Q { h with state }) :
    Parallel (Publishing.Peers x x' P) (Publishing.Peers x x' Q) E (enter state) (enter state) :=
  abreast_update (fun _ => rfl) (fun _ => rfl) common

variable (timely : x.session.Timely) (timely' : x'.session.Timely) {start start' : Float}

include timely timely'

lemma abreast_recordingFailure (read : Publishing.Read x x' start start') (stage : Stage)
    {a b : Act Publishing α} (h : Abreast x x' P Q a b) :
    Abreast x x' P Q (recordingFailure stage start a) (recordingFailure stage start' b) :=
  Parallel.onFailure h fun _ _ same =>
    abreast_recordStage timely timely' read (fun _ _ => rfl) _ _ (Failure.message_eq same)

lemma abreast_staged (read : Publishing.Read x x' start start') (stage : Stage) (state : JobState)
    {a b : Act Publishing α} (detail : α → String) (h : Abreast x x' P Q a b)
    (common : ∀ g h, Q g = Q h → R { g with state } = R { h with state })
    (kept : ∀ g t, R (Progress.timed g t) = R g) :
    Abreast x x' P R (staged stage start state a detail)
      (staged stage start' state b detail) :=
  Parallel.bind (abreast_recordingFailure timely timely' read stage h) fun _ =>
    (abreast_enter state common).bind fun _ =>
      abreast_recordStage timely timely' read kept _ _ rfl

namespace Publisher

variable (p : Publisher)

/-! ### Stages -/

lemma abreast_authorize :
    Abreast x x' Progress.nothing Progress.delivery p.authorize p.authorize := by
  refine abreast_now fun start start' read => ?_
  dsimp only
  split
  · refine (abreast_enter (Q := Progress.delivery) .authorized fun _ _ _ => rfl).bind fun _ => ?_
    exact (abreast_recordStage timely timely' read (fun _ _ => rfl) _ _ rfl).bind fun _ =>
      parallel_pure _
  · refine (abreast_enter (Q := Progress.delivery) .skipped fun _ _ _ => rfl).bind fun _ => ?_
    refine (abreast_warn (P := Progress.delivery) _ fun _ _ => rfl).bind fun _ => ?_
    exact (abreast_recordStage timely timely' read (fun _ _ => rfl) _ _ rfl).bind fun _ =>
      parallel_pure _

lemma abreast_validate :
    Abreast x x' Progress.delivery Progress.mode p.validate p.validate := by
  refine abreast_now fun start start' read => ?_
  refine Parallel.bind (abreast_recordingFailure (Q := Progress.mode) timely timely' read _ ?_)
    fun mode => ?_
  · exact (abreast_ofRejection _).bind fun mode =>
      Parallel.bind (abreast_update (fun _ => rfl) (fun _ => rfl) fun _ _ _ => rfl) fun _ =>
        parallel_pure mode
  · exact (abreast_recordStage timely timely' read (fun _ _ => rfl) _ _ rfl).bind fun _ =>
      parallel_pure _

lemma abreast_credentials :
    Abreast x x' Progress.mode Progress.mode p.credentials p.credentials := by
  have logins : Abreast x x' Progress.mode Progress.mode p.loggingIn p.loggingIn :=
    (abreast_inSession p.docker.parallel_setupBuildx).bind fun _ =>
      (abreast_inSession (Ecr.parallel_login _ _ _)).bind fun _ =>
        (abreast_inSession (p.docker.parallel_login _ _ _)).bind fun _ => parallel_pure _
  rw [credentials_eq]
  refine abreast_now fun start start' read =>
    abreast_staged (Q := Progress.mode) timely timely' read _ _ _ ?_ (fun _ _ same => same)
      fun _ _ => rfl
  unfold checkedLogins
  split
  · exact (abreast_ofRejection _).bind fun _ => logins
  · exact logins

lemma abreast_resolveVersion (mode : Mode) :
    Abreast x x' Progress.mode (fun g => (g.mode, g.request)) (p.resolveVersion mode)
      (p.resolveVersion mode) := by
  refine abreast_now fun start start' read => ?_
  have recorded (status : StageStatus) (detail : String) :
      Abreast x x' Progress.mode Progress.mode (recordStage .resolveVersion start status detail)
        (recordStage .resolveVersion start' status detail) :=
    abreast_recordStage timely timely' read (fun _ _ => rfl) _ _ rfl
  have looking : Abreast x x' Progress.mode Progress.mode (p.lookUpVersion mode start)
      (p.lookUpVersion mode start') := by
    refine parallel_state fun y z h => ?_
    rw [h.sessions.world.files]
    dsimp only
    split
    · exact parallel_pure _
    · split
      · exact (recorded _ _).bind fun _ => abreast_fail rfl
      · exact parallel_pure _
    · exact abreast_fail rfl
  have resolving (version : Option String) :
      Abreast x x' Progress.mode (fun g => (g.mode, g.request)) (resolving mode version start)
        (resolving mode version start') := by
    refine (abreast_ofRejection _).bind fun request => ?_
    refine Parallel.bind (abreast_update (Q := fun g => (g.mode, g.request)) (fun _ => rfl)
      (fun _ => rfl) fun g h same => congrArg (·, some request) same) fun _ => ?_
    refine Parallel.bind (abreast_enter (Q := fun g => (g.mode, g.request)) _
      fun _ _ same => same) fun _ => ?_
    exact (abreast_recordStage timely timely' read (fun _ _ => rfl) _ _ rfl).bind fun _ =>
      parallel_pure _
  refine looking.bind fun version => ?_
  dsimp only
  split
  · split
    · exact (recorded _ _).bind fun _ => (abreast_fail (Q := Progress.mode) rfl).bind fun _ =>
        resolving version
    · exact (abreast_warn _ fun _ _ => rfl).bind fun _ => resolving version
  · exact resolving version

lemma abreast_buildWheel :
    Abreast x x' (fun g => (g.mode, g.request)) (fun g => (g.mode, g.request, g.artifacts))
      p.buildWheel p.buildWheel := by
  rw [buildWheel_eq]
  refine abreast_now fun start start' read => parallel_state fun y z h => ?_
  rw [h.sessions.world.interpreter]
  refine abreast_staged (Q := fun g => (g.mode, g.request, g.artifacts)) timely timely' read _ _
    _ ?_ (fun _ _ same => same) fun _ _ => rfl
  refine (abreast_inSession (WheelBuilder.parallel_build _)).bind fun artifacts => ?_
  refine Parallel.bind (abreast_update (fun _ => rfl) (fun _ => rfl) fun g h same => ?_) fun _ =>
    parallel_pure artifacts
  obtain ⟨mode, request⟩ := Prod.mk.inj same
  simp only [mode, request]

omit timely timely' in
lemma abreast_selecting (request : Request) :
    Abreast x x' (fun g => (g.mode, g.request, g.artifacts))
      (fun g => (g.mode, g.request, g.artifacts)) (p.selecting request) (p.selecting request) := by
  refine parallel_state fun y z h => ?_
  rw [h.sessions.world.files]
  exact abreast_ofExcept _

lemma abreast_publishImage (request : Request) :
    Abreast x x' (fun g => (g.mode, g.request, g.artifacts))
      (fun g => (g.mode, g.request, g.artifacts, g.selection)) (p.publishImage request)
      (p.publishImage request) := by
  have building : Abreast x x' (fun g => (g.mode, g.request, g.artifacts, g.selection))
      (fun g => (g.mode, g.request, g.artifacts, g.selection))
      (do let _ ← inSession (p.docker.build (p.buildSpec request (p.selection request))))
      (do let _ ← inSession (p.docker.build (p.buildSpec request (p.selection request)))) :=
    (abreast_inSession (p.docker.parallel_build _)).bind fun _ => parallel_pure ()
  rw [publishImage_eq]
  refine abreast_now fun start start' read => ?_
  refine Parallel.bind (p.abreast_selecting request) fun _ => ?_
  refine Parallel.bind (abreast_update (Q := fun g =>
    (g.mode, g.request, g.artifacts, g.selection)) (fun _ => rfl) (fun _ => rfl)
    fun g h same => ?_) fun _ => ?_
  · obtain ⟨mode, rest⟩ := Prod.mk.inj same
    obtain ⟨made, artifacts⟩ := Prod.mk.inj rest
    simp only [mode, made, artifacts]
  · refine abreast_staged timely timely' read _ _ _ ?_ (fun _ _ same => same) fun _ _ => rfl
    unfold making
    split
    · exact (abreast_inSession (p.parallel_checkUnreleased _)).bind fun _ => building
    · exact building

lemma abreast_stages : Abreast x x' Progress.nothing Progress.delivery p.stages p.stages := by
  refine (p.abreast_authorize timely timely').bind fun allowed => ?_
  split
  · refine (p.abreast_validate timely timely').bind fun mode => ?_
    refine (p.abreast_credentials timely timely').bind fun _ => ?_
    refine (p.abreast_resolveVersion timely timely' mode).bind fun request => ?_
    refine (p.abreast_buildWheel timely timely').bind fun _ => ?_
    refine (p.abreast_publishImage timely timely' request).bind fun _ => ?_
    refine Parallel.bind (abreast_enter (Q := Progress.delivery) .delivered fun g h same => ?_)
      fun _ => parallel_pure true
    exact congrArg (fun told => (JobState.delivered, some told)) same
  · exact parallel_pure false

end Publisher

end

/-! ### Whole runs -/

lemma abreast_banner {β : Type} {x x' : Publishing} {P : Progress → β} (text text' : String) :
    Abreast x x' P P (Publisher.banner text) (Publisher.banner text') :=
  (abreast_inSession (parallel_info _ _)).bind fun _ =>
    (abreast_inSession (parallel_info _ _)).bind fun _ => abreast_inSession (parallel_info _ _)

lemma outward_of_quiet {new : List Event} (quiet : movesOf new = []) : outward new = [] := by
  refine List.filter_eq_nil_iff.mpr fun e he => ?_
  rw [movesOf_eq_nil.mp quiet e he]
  exact Bool.false_ne_true

namespace Publisher

variable (p : Publisher)

/-- A new publisher with the same arguments, under another name. -/
def renewed (jobId : String) : Publisher :=
  { p with jobId }

/-- Two ends of runs that tell the same of what was done: failures of one kind with one message, or
results that differ in their names and in their records at most. -/
inductive SameEnd : Except Failure JobResult → Except Failure JobResult → Prop
  | failed {e f : Failure} (outline : e.outline = f.outline) (message : e.message = f.message) :
      SameEnd (.error e) (.error f)
  | returned (r : JobResult) (jobId : String) (timings : List StageTiming)
      (warnings : List String) : SameEnd (.ok r) (.ok { r with jobId, timings, warnings })

variable {p} {x x' y z : Publishing}

lemma closing_end (timely : x.session.Timely) {start : Float} (read : x.session.MayShow start)
    (later : x.session.MayShow y.session.clock) (delivered : Bool) :
    ∃ new, outward new = [] ∧ (p.closing start delivered).run y =
      (.ok (p.result y.progress),
        ⟨{ y.session with journal := y.session.journal ++ new }, y.progress⟩) := by
  have sure := p.closing_sure timely read later delivered
  obtain ⟨new, lead, along⟩ := p.follows_closing (m := p.manner) start delivered y
  rcases hc : (p.closing start delivered).run y with ⟨e | r, u⟩
  · rw [hc] at sure
    cases sure
  · obtain ⟨same, rfl⟩ := p.closing_ok hc
    rw [hc] at lead
    refine ⟨new, outward_of_quiet along.quiet, ?_⟩
    rw [← same, ← lead.of_quiet along.quiet]

/-- Two publishers on a par run on a par, and both fail or neither does. -/
lemma run_abreast (world : x.session.SameWorld x'.session) (timely : x.session.Timely)
    (timely' : x'.session.Timely) (jobId : String) :
    x.Peers x' Progress.delivery (p.run.run x).2 ((p.renewed jobId).run.run x').2 ∧
      ((∃ e f, (p.run.run x).1 = .error e ∧ ((p.renewed jobId).run.run x').1 = .error f ∧
          e.outline = f.outline) ∨
        (p.run.run x).1 = .ok (p.result (p.run.run x).2.progress) ∧
          ((p.renewed jobId).run.run x').1 =
            .ok ((p.renewed jobId).result ((p.renewed jobId).run.run x').2.progress)) := by
  have started : x.Peers x' Progress.nothing x x' :=
    ⟨.refl world, ⟨[], by rw [List.append_nil], by rw [List.append_nil]⟩,
      ⟨[], [], by rw [List.append_nil], by rw [List.append_nil], rfl⟩, rfl⟩
  have opened : x.Peers x' Progress.nothing (p.opened x) ((p.renewed jobId).opened x') := by
    have banners := abreast_banner p.heading (p.renewed jobId).heading x x' started
    exact banners.state
  have stages := Parallel.onFailure (p.abreast_stages timely timely') (fun _ _ _ =>
    abreast_enter (Q := Progress.delivery) .failed fun _ _ _ => rfl) _ _ opened
  have same : (p.renewed jobId).stages = p.stages := rfl
  rw [run_run, run_run, same]
  generalize p.stages.onFailure (fun _ => enter .failed) = body at stages ⊢
  rcases hl : body.run (p.opened x) with ⟨e | delivered, y⟩ <;>
    rcases hr : body.run ((p.renewed jobId).opened x') with ⟨f | delivered', z⟩ <;>
    rw [hl, hr] at stages <;> cases stages
  · case error.error told end_ =>
    rw [run_bind_of_error hl, run_bind_of_error hr]
    exact ⟨end_, .inl ⟨e, f, rfl, rfl, told⟩⟩
  · case ok.ok end_ =>
    obtain ⟨new, quiet, left⟩ := closing_end (p := p) timely
      (opened.sessions.left _ (mayShow_clock _)) (end_.sessions.left _ (mayShow_clock _)) delivered
    obtain ⟨new', quiet', right⟩ := closing_end (p := p.renewed jobId) timely'
      (opened.sessions.right _ (mayShow_clock _)) (end_.sessions.right _ (mayShow_clock _))
      delivered
    rw [run_bind_of_ok hl, run_bind_of_ok hr, left, right]
    exact ⟨⟨end_.sessions.grow (quiet.trans quiet'.symm), end_.warnings, end_.timings,
      end_.common⟩, .inr ⟨rfl, rfl⟩⟩

/-! ### Runs that are skipped -/

/-- What a result tells of the progress besides the state. -/
def Yield (g : Progress) : Option Mode × Option Request × List Artifact × Option Selection :=
  (g.mode, g.request, g.artifacts, g.selection)

lemma spares_of_barred
    (barred : repositoryAllowed p.repository p.settings.allowedRepository = false) :
    p.run.Spares Yield := by
  have authorize : p.authorize.Spares Yield := by
    refine Act.Spares.bind (fun _ => rfl) fun start => ?_
    have recorded (status : StageStatus) (detail : String) :
        (recordStage .authorize start status detail).Spares Yield :=
      spares_recordStage (fun _ _ => rfl) _ _ _ _
    dsimp only
    split
    · exact Act.Spares.bind (fun _ => rfl) fun _ => (recorded _ _).bind fun _ =>
        (keeps_pure _).spares
    · exact Act.Spares.bind (fun _ => rfl) fun _ => Act.Spares.bind (fun _ => rfl) fun _ =>
        (recorded _ _).bind fun _ => (keeps_pure _).spares
  have stages : p.stages.Spares Yield := fun y => by
    have first := authorize y
    unfold stages
    rcases run_bind_cases p.authorize _ y with ⟨e, z, ha, hb⟩ | ⟨allowed, z, ha, hb⟩
    · rw [hb]
      rw [ha] at first
      exact first
    · rw [hb, p.authorize_ok ha, barred]
      rw [ha] at first
      exact first
  rw [run_eq]
  refine Act.Spares.bind (fun _ => rfl) fun _ => Act.Spares.bind (fun _ => rfl) fun start => ?_
  refine Act.Spares.bind (stages.onFailure fun _ _ => rfl) fun delivered => ?_
  exact (p.keeps_closing start delivered).spares

lemma yield_of_barred
    (barred : repositoryAllowed p.repository p.settings.allowedRepository = false)
    (runs : List Session) : Yield (p.after runs).progress = (none, none, [], none) :=
  p.after_induction (motive := fun y => Yield y.progress = (none, none, [], none)) rfl
    (fun y world ih => (spares_of_barred barred (y.into world)).trans ih) runs

variable (p)

/-- Publishers with the same arguments tell the same of the same progress. -/
lemma sameEnd_result {g h : Progress} (jobId : String) (state : g.state = h.state)
    (same : Yield g = Yield h) :
    SameEnd (.ok (p.result g)) (.ok ((p.renewed jobId).result h)) := by
  obtain ⟨mode, rest⟩ := Prod.mk.inj same
  obtain ⟨request, rest⟩ := Prod.mk.inj rest
  obtain ⟨artifacts, selection⟩ := Prod.mk.inj rest
  have told : (p.renewed jobId).result h =
      { p.result g with jobId, timings := h.timings, warnings := h.warnings } := by
    simp only [result, renewed, state, mode, request, artifacts, selection]
  rw [told]
  exact .returned _ _ _ _

/-- **Used again**: whatever runs came before, and however they ended, the next run of a publisher
does what the first run of a new one does in the same world: it starts the same commands and asks
the same questions, it ends in the same state, with failures of one kind and with one message or
with results that tell the same, and it adds the same warnings and, but for their times, the same
timings. -/
theorem used_again (earlier : List Session) (world world' : Session) (jobId : String)
    (same : world.SameWorld world') (timely : world.Timely) (timely' : world'.Timely) :
    outward (p.trace (p.onTurn earlier world)) =
        outward ((p.renewed jobId).trace ((p.renewed jobId).onTurn [] world')) ∧
      (p.after (earlier ++ [world])).progress.state =
        ((p.renewed jobId).after [world']).progress.state ∧
      SameEnd (p.run.run (p.onTurn earlier world)).1
        ((p.renewed jobId).run.run ((p.renewed jobId).onTurn [] world')).1 ∧
      (∃ new, (p.after (earlier ++ [world])).progress.warnings =
          (p.after earlier).progress.warnings ++ new ∧
        ((p.renewed jobId).after [world']).progress.warnings = new) ∧
      ∃ new new', (p.after (earlier ++ [world])).progress.timings =
          (p.after earlier).progress.timings ++ new ∧
        ((p.renewed jobId).after [world']).progress.timings = new' ∧
        new.map StageTiming.told = new'.map StageTiming.told := by
  have first : (p.renewed jobId).after [world'] =
      ((p.renewed jobId).run.run ((p.renewed jobId).onTurn [] world')).2 :=
    (p.renewed jobId).after_concat [] world'
  rw [after_concat, first]
  have met : (p.onTurn earlier world).session.SameWorld
      ((p.renewed jobId).onTurn [] world').session :=
    ⟨same.env, same.files, same.script, same.reply, same.interpreter⟩
  obtain ⟨peers, ends⟩ := run_abreast (p := p) met timely timely' jobId
  obtain ⟨state, delivered⟩ := Prod.mk.inj peers.common
  refine ⟨?_, state, ?_, peers.warnings, peers.timings⟩
  · obtain ⟨new, new', left, right, reached⟩ := peers.sessions.journals
    rw [trace, trace, left, right, List.drop_left, List.drop_left, reached]
  · rcases ends with ⟨e, f, left, right, told⟩ | ⟨left, right⟩
    · rw [left, right]
      exact .failed told (Failure.message_eq told)
    · rw [left, right]
      refine p.sameEnd_result jobId state ?_
      rcases p.run_ok (Prod.ext left rfl) with ⟨came, -⟩ | ⟨-, barred⟩
      · have came : (p.run.run (p.onTurn earlier world)).2.progress.state = .delivered := came
        rw [if_pos came, if_pos (state.symm.trans came)] at delivered
        exact Option.some.inj delivered
      · have kept := spares_of_barred barred (p.onTurn earlier world)
        have none : Yield (p.onTurn earlier world).progress = _ := yield_of_barred barred earlier
        have kept' := spares_of_barred (p := p.renewed jobId) barred
          ((p.renewed jobId).onTurn [] world')
        exact (kept.trans none).trans kept'.symm

/-- A release after one that failed at its first tool goes as a first one does. -/
theorem used_again_usual :
    (Session.still [] (.response {})).SameWorld (Session.still [] (.response {})) ∧
      (Session.still [] (.response {})).Timely ∧
      SameEnd
        ((usual "Zq8" "Qx9" ["1"]).run.run ((usual "Zq8" "Qx9" ["1"]).onTurn
          [.still [.exited 1 "" ""] (.response {})] (.still [] (.response {})))).1
        (((usual "Zq8" "Qx9" ["1"]).renewed "ba9876543210").run.run
          (((usual "Zq8" "Qx9" ["1"]).renewed "ba9876543210").onTurn []
            (.still [] (.response {})))).1 := by
  have same : (Session.still [] (.response {})).SameWorld (Session.still [] (.response {})) :=
    ⟨rfl, rfl, rfl, rfl, rfl⟩
  have timely := timely_still [] (.response {})
  obtain ⟨-, -, ends, -⟩ := used_again (usual "Zq8" "Qx9" ["1"])
    [.still [.exited 1 "" ""] (.response {})] _ _ "ba9876543210" same timely timely
  exact ⟨same, timely, ends⟩

end Publisher

end ImageRelease
