import ImageRelease.Proofs.Release.History
import ImageRelease.Proofs.Release.TurnFailures

/-!
What stands on record after a run.

A run is skipped, or it delivers, or it is stopped by one of its turns (`run_outcome`), and its
record tells which: the timings that it adds are those of the stages that it went through, each of
them ok but for the last. Whatever earlier runs have left stays as it was.
-/

namespace ImageRelease

open Session Act

/-- What is told of a stage: which one, and how it ended. -/
def StageTiming.mark (t : StageTiming) : Stage × StageStatus :=
  (t.stage, t.status)

/-- The marks of stages that all went well. -/
def Stage.passed (stages : List Stage) : List (Stage × StageStatus) :=
  stages.map (·, .ok)

/-- Marks that a run may leave: of first stages, at least one, and all ok but for the last. -/
def Stage.IsCourse (marks : List (Stage × StageStatus)) : Prop :=
  marks ≠ [] ∧ marks.map (·.1) <+: Stage.all ∧ ∀ m ∈ marks.dropLast, m.2 = .ok

instance (marks : List (Stage × StageStatus)) : Decidable (Stage.IsCourse marks) :=
  inferInstanceAs (Decidable (_ ∧ _ ∧ _))

lemma Stage.isCourse_failed (s : Stage) : IsCourse (passed s.before ++ [(s, .failed)]) := by
  cases s <;> decide

lemma Stage.isCourse_before {s : Stage} (later : s ≠ .authorize) : IsCourse (passed s.before) := by
  cases s <;> first | exact absurd rfl later | decide

/-- The marks that were added. -/
def Progress.marksSince (g h : Progress) : List (Stage × StageStatus) :=
  (h.timings.drop g.timings.length).map StageTiming.mark

/-- Timings with these marks were added. -/
def Progress.Adds (g h : Progress) (marks : List (Stage × StageStatus)) : Prop :=
  ∃ new, h.timings = g.timings ++ new ∧ new.map StageTiming.mark = marks

lemma Progress.Adds.timed {g h h' : Progress} {marks : List (Stage × StageStatus)}
    {t : StageTiming} (adds : g.Adds h marks) (same : h'.timings = h.timings) :
    g.Adds (h'.timed t) (marks ++ [t.mark]) := by
  obtain ⟨new, ht, rfl⟩ := adds
  refine ⟨new ++ [t], ?_, by rw [List.map_append, List.map_singleton]⟩
  rw [Progress.timed, same, ht, List.append_assoc]

lemma Progress.Adds.isPrefix {g h : Progress} {marks : List (Stage × StageStatus)}
    (adds : g.Adds h marks) : g.timings <+: h.timings := by
  obtain ⟨new, ht, -⟩ := adds
  exact ⟨new, ht.symm⟩

lemma Progress.Adds.marksSince {g h : Progress} {marks : List (Stage × StageStatus)}
    (adds : g.Adds h marks) : g.marksSince h = marks := by
  obtain ⟨new, ht, hm⟩ := adds
  rw [Progress.marksSince, ht, List.drop_left, hm]

namespace Publisher

variable (p : Publisher)

/-- What a run that is not skipped warns of. -/
def warnedIn (s : Session) : List String :=
  match Mode.parse p.asked with
  | .ok mode =>
    match p.versionFrom mode (p.filesRead s) with
    | .ok none => [p.versionWarning]
    | _ => []
  | .error _ => []

def warnedBefore (s : Session) : Turn → List String
  | .buildWheel _ | .publishImage _ => p.warnedIn s
  | _ => []

/-- What the progress holds of what a turn counts on. -/
def Holds (g : Progress) : Turn → Prop
  | .authorize | .validate => True
  | .credentials mode | .resolveVersion mode => g.mode = some mode
  | .buildWheel request | .publishImage request =>
    (∃ mode, Mode.parse p.asked = .ok mode ∧ g.mode = some mode) ∧ g.request = some request

/-- The progress with which a run comes to a turn. -/
structure Passed (x : Publishing) (t : Turn) (g : Progress) : Prop where
  timings : x.progress.Adds g (Stage.passed t.stage.before)
  warnings : g.warnings = x.progress.warnings ++ p.warnedBefore x.session t
  holds : p.Holds g t

variable {p}

lemma Comes.passed {x y : Publishing} {t : Turn} (h : p.Comes x t y) : p.Passed x t y.progress := by
  induction h with
  | start => exact ⟨⟨[], (List.append_nil _).symm, rfl⟩, (List.append_nil _).symm, trivial⟩
  | @next t t' y z comes took ih =>
    obtain ⟨timings, warnings, holds⟩ := ih
    obtain ⟨found, new, lead, moves⟩ := comes.moved
    have goes := p.goes_of_take took
    generalize z.progress = g at goes
    cases goes with
    | authorized => exact ⟨timings.timed rfl, warnings, trivial⟩
    | validated => exact ⟨timings.timed rfl, warnings, rfl⟩
    | loggedIn => exact ⟨timings.timed rfl, warnings, holds⟩
    | @resolved mode version request _ hv =>
      have asked : Mode.parse p.asked = .ok mode := found
      rw [p.files_of_logins lead moves] at hv
      refine ⟨timings.timed rfl, ?_, ⟨mode, asked, holds⟩, rfl⟩
      simp only [Progress.timed, warnings, warnedBefore, warnedIn, asked, hv]
      cases version <;> simp
    | built => exact ⟨timings.timed rfl, warnings, holds⟩

variable (p)

/-- What a run that is skipped leaves behind. -/
structure Skipped (x : Publishing) (g : Progress) : Prop where
  barred : repositoryAllowed p.repository p.settings.allowedRepository = false
  progress : ∃ time, g =
    { x.progress with
        state := .skipped
        warnings := x.progress.warnings ++ [p.skipWarning] }.timed
      ⟨.authorize, time, .skipped, p.repository⟩

/-- What a run that delivers leaves behind. -/
structure Delivered (x : Publishing) (g : Progress) : Prop where
  asked : ∃ mode, Mode.parse p.asked = .ok mode ∧ g.mode = some mode
  made : ∃ request, p.requestIn x.session = .ok request ∧ g.request = some request ∧
    g.selection = some (p.selection request)
  state : g.state = .delivered
  warnings : g.warnings = x.progress.warnings ++ p.warnedIn x.session
  timings : x.progress.Adds g (Stage.passed Stage.all)

/-- A run comes to a turn and fails there. -/
def StopsAt (x : Publishing) (t : Turn) (e : Failure) : Prop :=
  ∃ y, p.Comes (p.opened x) t y ∧ ((p.take t).run y).1 = .error e

/-- What a run that is stopped leaves behind. -/
structure Stopped (x : Publishing) (t : Turn) (e : Failure) (g : Progress) : Prop where
  stops : p.StopsAt x t e
  later : t.stage ≠ .authorize
  state : g.state = .failed
  warnings : g.warnings = x.progress.warnings ++ p.warnedBefore x.session t
  recorded : ¬p.Unnoted (p.filesRead x.session) t e →
    x.progress.Adds g (Stage.passed t.stage.before ++ [(t.stage, .failed)])
  unrecorded : p.Unnoted (p.filesRead x.session) t e →
    x.progress.Adds g (Stage.passed t.stage.before)

/-- How a run can end, and what it leaves behind. -/
inductive Outcome (x : Publishing) : Except Failure JobResult → Progress → Prop
  | skipped {g : Progress} (h : p.Skipped x g) : Outcome x (.ok (p.result g)) g
  | delivered {g : Progress} (h : p.Delivered x g) : Outcome x (.ok (p.result g)) g
  | stopped {t : Turn} {e : Failure} {g : Progress} (h : p.Stopped x t e g) :
      Outcome x (.error e) g

variable {p}

lemma Comes.unnoted_iff {x y : Publishing} {t : Turn} {e : Failure} (h : p.Comes x t y) :
    p.Unnoted y.session.files t e ↔ p.Unnoted (p.filesRead x.session) t e := by
  obtain ⟨-, new, lead, moves⟩ := h.moved
  cases t with
  | resolveVersion mode => rw [p.files_of_logins lead moves]
  | authorize => exact ⟨nofun, nofun⟩
  | validate => exact ⟨nofun, nofun⟩
  | credentials mode => exact ⟨nofun, nofun⟩
  | buildWheel request => exact ⟨nofun, nofun⟩
  | publishImage request =>
    have places : y.session.files.places = (p.filesRead x.session).places := by
      rw [lead.places, places_filesRead]
    exact ⟨fun | .unselected h => .unselected (places ▸ h),
      fun | .unselected h => .unselected (places ▸ h)⟩

lemma Comes.timely {x y : Publishing} {t : Turn} (h : p.Comes x t y) (timely : x.session.Timely) :
    y.session.Timely := by
  obtain ⟨-, new, lead, -⟩ := h.moved
  exact lead.timely timely

lemma Comes.stopped {x y z : Publishing} {t : Turn} {e : Failure} (timely : x.session.Timely)
    (h : p.Comes (p.opened x) t y) (took : (p.take t).run y = (.error e, z)) :
    p.Stopped x t e (z.entered .failed).progress := by
  obtain ⟨timings, warnings, -⟩ := h.passed
  have fails := fails_of_take (h.timely timely) took
  have same : p.Unnoted y.session.files t e ↔ p.Unnoted (p.filesRead x.session) t e :=
    h.unnoted_iff
  have stops : p.StopsAt x t e := ⟨y, h, by rw [took]⟩
  rw [Publishing.entered]
  generalize z.progress = g at fails
  cases fails with
  | recorded selection time detail due noted =>
    exact ⟨stops, due.later, rfl, warnings, fun _ => timings.timed rfl,
      fun h => absurd (same.mpr h) noted⟩
  | unrecorded due unnoted =>
    exact ⟨stops, due.later, rfl, warnings, fun h => absurd (same.mp unnoted) h, fun _ => timings⟩

/-- The last turn of a run that is not stopped leaves it skipped or delivered. -/
lemma Comes.finished {x y z : Publishing} {t : Turn} {delivered : Bool}
    (h : p.Comes (p.opened x) t y) (took : (p.take t).run y = (.ok (.finish delivered), z)) :
    p.Skipped x z.progress ∨ p.Delivered x z.progress := by
  obtain ⟨timings, warnings, holds⟩ := h.passed
  obtain ⟨found, -⟩ := h.moved
  have goes := p.goes_of_take took
  generalize z.progress = g at goes
  cases goes with
  | skipped time barred =>
    cases h with
    | start => exact .inl ⟨barred, time, rfl⟩
    | next comes took =>
      have goes := p.goes_of_take took
      generalize y.progress = g at goes
      cases goes
  | published request time =>
    obtain ⟨asked, made⟩ := holds
    exact .inr ⟨asked, ⟨request, found, made, rfl⟩, rfl, warnings, timings.timed rfl⟩

/-- **How a run ends**: it is skipped, or it delivers, or it is stopped at a turn. -/
theorem run_outcome {x : Publishing} (timely : x.session.Timely) :
    p.Outcome x (p.run.run x).1 (p.run.run x).2.progress := by
  have ends := stages_end (p := p) (p.opened x)
  generalize hs : p.stages.run (p.opened x) = ended at ends
  cases ends with
  | @finished t y z delivered comes took =>
    obtain ⟨new, lead, -⟩ := (p.follows_stages (p.opened x)).ok hs
    have sure : ((p.closing (p.opened x).session.clock delivered).run z).1.isOk = true :=
      p.closing_sure timely (mayShow_clock _) (lead.mayShow (mayShow_clock _)) delivered
    have run := p.run_of_stages_ok hs
    rcases hc : (p.closing (p.opened x).session.clock delivered).run z with ⟨e | result, u⟩
    · rw [hc] at sure
      cases sure
    · obtain ⟨same, rfl⟩ := p.closing_ok hc
      rw [run, hc, same]
      exact (comes.finished took).elim .skipped .delivered
  | @failed t y z e comes took =>
    rw [p.run_of_stages_error hs]
    exact .stopped (comes.stopped timely took)

variable (p)

/-- **Failures on record**: a run that fails was stopped at a turn after the first, and in this run
the stages before it are on record as ok, and after them its own stage as failed. The failure is not
on record where the properties file cannot be read when the version is looked up, and where a
surrogate stands alone in the tag of the image. -/
theorem failure_recorded (x : Publishing) (timely : x.session.Timely) {e : Failure}
    (failed : (p.run.run x).1 = .error e) :
    ∃ t, p.StopsAt x t e ∧ t.stage ≠ .authorize ∧
      (¬p.Unnoted (p.filesRead x.session) t e →
        x.progress.Adds (p.run.run x).2.progress
          (Stage.passed t.stage.before ++ [(t.stage, .failed)])) ∧
      (p.Unnoted (p.filesRead x.session) t e →
        x.progress.Adds (p.run.run x).2.progress (Stage.passed t.stage.before)) := by
  have outcome := p.run_outcome timely
  generalize (p.run.run x).2.progress = g at outcome ⊢
  rw [failed] at outcome
  cases outcome with
  | @stopped t e g h => exact ⟨t, h.stops, h.later, h.recorded, h.unrecorded⟩

/-- A release whose first tool fails is stopped at the logins. -/
theorem failure_recorded_usual :
    (Session.still [.exited 1 "" ""] (.response {})).Timely ∧
      ∃ e, ((usual "Zq8" "Qx9" ["1"]).run.run ⟨.still [.exited 1 "" ""] (.response {}), {}⟩).1 =
          .error e ∧
        ∃ t, (usual "Zq8" "Qx9" ["1"]).StopsAt
          ⟨.still [.exited 1 "" ""] (.response {}), {}⟩ t e := by
  have timely := timely_still [.exited 1 "" ""] (.response {})
  refine ⟨timely, ?_⟩
  cases h : ((usual "Zq8" "Qx9" ["1"]).run.run ⟨.still [.exited 1 "" ""] (.response {}), {}⟩).1 with
  | ok r =>
    have ended : ((usual "Zq8" "Qx9" ["1"]).run.run
        ⟨.still [.exited 1 "" ""] (.response {}), {}⟩).1.isOk = false := by decide +kernel
    rw [h] at ended
    cases ended
  | error e =>
    obtain ⟨t, stops, -⟩ := failure_recorded (usual "Zq8" "Qx9" ["1"]) _ timely h
    exact ⟨e, rfl, t, stops⟩

def garbled : Session :=
  { Session.still [] (.response {}) with files.entries := [(["gradle.properties"], .file [255])] }

/-- A release fails on a properties file that is no text, and no stage is on record as failed. -/
theorem failure_recorded_garbled :
    ((usual "Zq8" "Qx9" ["1"]).run.run ⟨garbled, {}⟩).1.isOk = false ∧
      ∀ t ∈ ((usual "Zq8" "Qx9" ["1"]).run.run ⟨garbled, {}⟩).2.progress.timings,
        t.status ≠ .failed := by
  decide +kernel

/-! ### Run after run -/

/-- What a run makes of the progress that it began with, and what it tells of it. -/
structure Concludes (g : Progress) (result : Except Failure JobResult) (h : Progress) : Prop where
  timings : g.timings <+: h.timings
  warnings : g.warnings <+: h.warnings
  course : Stage.IsCourse (g.marksSince h)
  ends : h.state = .skipped ∨ h.state = .delivered ∨ h.state = .failed
  skipped : h.state = .skipped ↔
    (∃ r, result = .ok r) ∧ g.marksSince h = [(.authorize, .skipped)]
  delivered : h.state = .delivered ↔
    (∃ r, result = .ok r) ∧ g.marksSince h = Stage.passed Stage.all
  failed : h.state = .failed ↔ ∃ e, result = .error e
  told : ∀ r, result = .ok r → r.state = h.state
  one_warning : h.state = .skipped → (h.warnings.drop g.warnings.length).length = 1
  few_warnings : (h.warnings.drop g.warnings.length).length ≤ 1

lemma length_warnedIn (s : Session) : (p.warnedIn s).length ≤ 1 := by
  unfold warnedIn
  split
  · split <;> simp
  · simp

lemma length_warnedBefore (s : Session) (t : Turn) : (p.warnedBefore s t).length ≤ 1 := by
  unfold warnedBefore
  split
  · exact p.length_warnedIn s
  · exact p.length_warnedIn s
  · simp

variable {p}

lemma Skipped.concludes {x : Publishing} {g : Progress} (h : p.Skipped x g) :
    Concludes x.progress (.ok (p.result g)) g := by
  obtain ⟨-, time, rfl⟩ := h
  have adds : x.progress.Adds (({ x.progress with
      state := .skipped, warnings := x.progress.warnings ++ [p.skipWarning] } : Progress).timed
      ⟨.authorize, time, .skipped, p.repository⟩) [(.authorize, .skipped)] := ⟨_, rfl, rfl⟩
  have marks := adds.marksSince
  exact
    { timings := adds.isPrefix
      warnings := List.prefix_append _ _
      course := by rw [marks]; decide
      ends := .inl rfl
      skipped := ⟨fun _ => ⟨⟨_, rfl⟩, marks⟩, fun _ => rfl⟩
      delivered := ⟨nofun, fun ⟨_, other⟩ => nomatch marks.symm.trans other⟩
      failed := ⟨nofun, nofun⟩
      told := fun r hr => by cases hr; rfl
      one_warning := by simp [Progress.timed]
      few_warnings := by simp [Progress.timed] }

lemma Delivered.concludes {x : Publishing} {g : Progress} (h : p.Delivered x g) :
    Concludes x.progress (.ok (p.result g)) g := by
  have marks := h.timings.marksSince
  have state := h.state
  have warned := p.length_warnedIn x.session
  exact
    { timings := h.timings.isPrefix
      warnings := ⟨_, h.warnings.symm⟩
      course := by rw [marks]; decide
      ends := .inr (.inl state)
      skipped := by
        rw [state]
        exact ⟨nofun, fun ⟨_, other⟩ => nomatch marks.symm.trans other⟩
      delivered := ⟨fun _ => ⟨⟨_, rfl⟩, marks⟩, fun _ => state⟩
      failed := by rw [state]; exact ⟨nofun, nofun⟩
      told := fun r hr => by cases hr; rfl
      one_warning := by rw [state]; exact nofun
      few_warnings := by rwa [h.warnings, List.drop_left] }

/-- What a run that is stopped has on record, whether its failure is or not. -/
lemma Stopped.course {x : Publishing} {t : Turn} {e : Failure} {g : Progress}
    (h : p.Stopped x t e g) :
    x.progress.timings <+: g.timings ∧ Stage.IsCourse (x.progress.marksSince g) := by
  by_cases unnoted : p.Unnoted (p.filesRead x.session) t e
  · have adds := h.unrecorded unnoted
    refine ⟨adds.isPrefix, ?_⟩
    rw [adds.marksSince]
    exact Stage.isCourse_before h.later
  · have adds := h.recorded unnoted
    refine ⟨adds.isPrefix, ?_⟩
    rw [adds.marksSince]
    exact Stage.isCourse_failed _

lemma Stopped.concludes {x : Publishing} {t : Turn} {e : Failure} {g : Progress}
    (h : p.Stopped x t e g) : Concludes x.progress (.error e) g := by
  have state := h.state
  have warned := p.length_warnedBefore x.session t
  obtain ⟨timings, course⟩ := h.course
  exact
    { timings
      warnings := ⟨_, h.warnings.symm⟩
      course
      ends := .inr (.inr state)
      skipped := by rw [state]; exact ⟨nofun, fun ⟨⟨_, returned⟩, _⟩ => nomatch returned⟩
      delivered := by rw [state]; exact ⟨nofun, fun ⟨⟨_, returned⟩, _⟩ => nomatch returned⟩
      failed := ⟨fun _ => ⟨e, rfl⟩, fun _ => state⟩
      told := nofun
      one_warning := by rw [state]; exact nofun
      few_warnings := by rwa [h.warnings, List.drop_left] }

lemma run_concludes_of_timely {x : Publishing} (timely : x.session.Timely) :
    Concludes x.progress (p.run.run x).1 (p.run.run x).2.progress := by
  have outcome := p.run_outcome timely
  generalize (p.run.run x).1 = result at outcome ⊢
  generalize (p.run.run x).2.progress = g at outcome ⊢
  cases outcome with
  | skipped h => exact h.concludes
  | delivered h => exact h.concludes
  | stopped h => exact h.concludes

variable (p)

lemma after_grows (runs : List Session) {later : List Session} (timely : ∀ w ∈ later, w.Timely) :
    (p.after runs).progress.timings <+: (p.after (runs ++ later)).progress.timings ∧
      (p.after runs).progress.warnings <+: (p.after (runs ++ later)).progress.warnings := by
  induction later using List.reverseRecOn with
  | nil => rw [List.append_nil]; exact ⟨List.prefix_rfl, List.prefix_rfl⟩
  | append_singleton later world ih =>
    obtain ⟨timings, warnings⟩ := ih fun w hw => timely w (List.mem_append_left _ hw)
    have sound : (p.onTurn (runs ++ later) world).session.Timely :=
      timely world (List.mem_append_right _ (List.mem_singleton_self _))
    have concludes := run_concludes_of_timely (p := p) sound
    rw [← List.append_assoc, after_concat]
    exact ⟨timings.trans concludes.timings, warnings.trans concludes.warnings⟩

/-- **The record of runs**: whatever runs came before, a run adds timings of first stages, all ok
but for the last, and one warning at most. It ends as skipped exactly if it returned after a skipped
authorization, as delivered exactly if it returned with all stages ok, and as failed exactly if it
failed, and the result tells its state. No later run changes what is on record. -/
theorem run_concludes (earlier later : List Session) (world : Session)
    (timely : ∀ w ∈ world :: later, w.Timely) :
    Concludes (p.after earlier).progress (p.run.run (p.onTurn earlier world)).1
        (p.after (earlier ++ [world])).progress ∧
      (p.after (earlier ++ [world])).progress.timings <+:
        (p.after (earlier ++ world :: later)).progress.timings ∧
      (p.after (earlier ++ [world])).progress.warnings <+:
        (p.after (earlier ++ world :: later)).progress.warnings := by
  have sound : (p.onTurn earlier world).session.Timely := timely world List.mem_cons_self
  have grows := p.after_grows (earlier ++ [world]) fun w hw => timely w (List.mem_cons_of_mem _ hw)
  rw [List.append_assoc, List.singleton_append] at grows
  refine ⟨?_, grows⟩
  rw [after_concat]
  exact run_concludes_of_timely (p := p) sound

/-- Two runs of a release, one that fails at its first tool and one that delivers. -/
theorem run_concludes_usual :
    (∀ w ∈ [Session.still [.exited 1 "" ""] (.response {}), .still [] (.response {})], w.Timely) ∧
      ((usual "Zq8" "Qx9" ["1"]).after
          [.still [.exited 1 "" ""] (.response {})]).progress.timings <+:
        ((usual "Zq8" "Qx9" ["1"]).after [.still [.exited 1 "" ""] (.response {}),
          .still [] (.response {})]).progress.timings := by
  have timely : ∀ w ∈ [Session.still [.exited 1 "" ""] (.response {}), .still [] (.response {})],
      w.Timely := by
    intro w hw
    simp only [List.mem_cons, List.not_mem_nil, or_false] at hw
    rcases hw with rfl | rfl <;> exact timely_still _ _
  exact ⟨timely,
    (run_concludes (usual "Zq8" "Qx9" ["1"]) [] [.still [] (.response {})] _ timely).2.1⟩

end Publisher

end ImageRelease
