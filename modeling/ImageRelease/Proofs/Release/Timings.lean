import ImageRelease.Proofs.Release.Course

/-!
What a run records of its stages.

Timings only ever grow at their end, and a stage adds none but its own. So the timings of a run tell
how far it came: `early_of_timing` says that a run has a timing of the last stage only if all the
others were gone through.
-/

namespace ImageRelease

open Session Act

/-- An action adds timings at the end, and only of these stages. -/
def Act.Records {α : Type} (stages : List Stage) (x : Act Publishing α) : Prop :=
  ∀ y, ∃ more, (x.run y).2.progress.timings = y.progress.timings ++ more ∧
    ∀ t ∈ more, t.stage ∈ stages

section

variable {α β : Type} {stages : List Stage}

lemma records_of_same {x : Act Publishing α}
    (h : ∀ y, (x.run y).2.progress.timings = y.progress.timings) : x.Records stages :=
  fun y => ⟨[], by rw [h, List.append_nil], nofun⟩

lemma records_pure (a : α) : (pure a : Act Publishing α).Records stages :=
  records_of_same fun _ => rfl

lemma records_fail (e : Failure) : (.fail e : Act Publishing α).Records stages :=
  records_of_same fun _ => rfl

lemma records_state : (Act.state : Act Publishing Publishing).Records stages :=
  records_of_same fun _ => rfl

lemma records_now : now.Records stages :=
  records_of_same fun _ => rfl

lemma records_ofRejection (r : Except Rejection α) :
    (Act.ofRejection r : Act Publishing α).Records stages :=
  records_of_same fun y => by rw [run_ofRejection]

lemma records_inSession (x : Act Session α) : (inSession x).Records stages :=
  records_of_same fun _ => rfl

lemma records_update {f : Progress → Progress} (h : ∀ g, (f g).timings = g.timings) :
    (update f).Records stages :=
  records_of_same fun y => h y.progress

lemma records_enter (state : JobState) : (enter state).Records stages :=
  records_update fun _ => rfl

lemma records_warn (text : String) : (warn text).Records stages :=
  records_update fun _ => rfl

lemma records_recordStage {stage : Stage} (h : stage ∈ stages) (start : Float)
    (status : StageStatus) (detail : String) :
    (recordStage stage start status detail).Records stages := fun y => by
  rw [run_recordStage]
  split
  · exact ⟨[_], rfl, by simpa using h⟩
  · exact ⟨[], (List.append_nil _).symm, nofun⟩

lemma Act.Records.bind {x : Act Publishing α} {f : α → Act Publishing β} (hx : x.Records stages)
    (hf : ∀ a, (f a).Records stages) : (x >>= f).Records stages := fun y => by
  obtain ⟨old, ho, hold⟩ := hx y
  rcases run_bind_cases x f y with ⟨e, z, h, hb⟩ | ⟨a, z, h, hb⟩
  · rw [h] at ho
    rw [hb]
    exact ⟨old, ho, hold⟩
  · rw [h] at ho
    rw [hb]
    obtain ⟨new, hn, hnew⟩ := hf a z
    refine ⟨old ++ new, by rw [hn, ho, List.append_assoc], fun t ht => ?_⟩
    exact (List.mem_append.mp ht).elim (hold t) (hnew t)

lemma Act.Records.onFailure {x : Act Publishing α} {more : Failure → Act Publishing Unit}
    (hx : x.Records stages) (hm : ∀ e, (more e).Records stages) :
    (x.onFailure more).Records stages := fun y => by
  obtain ⟨old, ho, hold⟩ := hx y
  rcases h : x.run y with ⟨e | a, z⟩
  · rw [h] at ho
    obtain ⟨new, hn, hnew⟩ := hm e z
    rw [run_onFailure_of_error h]
    refine ⟨old ++ new, ?_, fun t ht => (List.mem_append.mp ht).elim (hold t) (hnew t)⟩
    rcases hr : (more e).run z with ⟨_ | _, u⟩ <;> rw [hr] at hn <;>
      exact hn.trans (by rw [ho, List.append_assoc])
  · rw [run_onFailure_of_ok h]
    rw [h] at ho
    exact ⟨old, ho, hold⟩

lemma records_recordingFailure {stage : Stage} (h : stage ∈ stages) (start : Float)
    {body : Act Publishing α} (hb : body.Records stages) :
    (recordingFailure stage start body).Records stages :=
  hb.onFailure fun _ => records_recordStage h _ _ _

lemma records_staged {stage : Stage} (h : stage ∈ stages) (start : Float) (state : JobState)
    {body : Act Publishing α} (detail : α → String) (hb : body.Records stages) :
    (staged stage start state body detail).Records stages :=
  (records_recordingFailure h start hb).bind fun _ => (records_enter _).bind fun _ =>
    records_recordStage h _ _ _

end

namespace Publisher

variable (p : Publisher) {stages : List Stage}

lemma records_authorize (h : .authorize ∈ stages) : p.authorize.Records stages := by
  refine records_now.bind fun start => ?_
  dsimp only
  split
  · exact (records_enter _).bind fun _ => (records_recordStage h _ _ _).bind fun _ =>
      records_pure _
  · exact (records_enter _).bind fun _ => (records_warn _).bind fun _ =>
      (records_recordStage h _ _ _).bind fun _ => records_pure _

lemma records_validate (h : .validate ∈ stages) : p.validate.Records stages := by
  refine records_now.bind fun start => (records_recordingFailure h _ ?_).bind fun mode => ?_
  · exact (records_ofRejection _).bind fun mode => (records_update (by intro _; rfl)).bind fun _ =>
      records_pure _
  · exact (records_recordStage h _ _ _).bind fun _ => records_pure _

lemma records_credentials (h : .credentials ∈ stages) : p.credentials.Records stages := by
  have logins : p.loggingIn.Records stages :=
    (records_inSession _).bind fun _ => (records_inSession _).bind fun _ =>
      (records_inSession _).bind fun _ => records_pure _
  rw [credentials_eq]
  refine records_now.bind fun start => records_staged h _ _ _ ?_
  unfold checkedLogins
  split
  · exact (records_ofRejection _).bind fun _ => logins
  · exact logins

lemma records_resolveVersion (h : .resolveVersion ∈ stages) (mode : Mode) :
    (p.resolveVersion mode).Records stages := by
  have looking : ∀ start, (p.lookUpVersion mode start).Records stages := fun start => by
    refine records_state.bind fun y => ?_
    split
    · exact records_pure _
    · split
      · exact (records_recordStage h _ _ _).bind fun _ => records_fail _
      · exact records_pure _
    · exact records_fail _
  refine records_now.bind fun start => (looking start).bind fun version => ?_
  have resolving : (resolving mode version start).Records stages :=
    (records_ofRejection _).bind fun _ => (records_update (by intro _; rfl)).bind fun _ =>
      (records_enter _).bind fun _ => (records_recordStage h _ _ _).bind fun _ => records_pure _
  split
  · split
    · exact (records_recordStage h _ _ _).bind fun _ => (records_fail _).bind fun _ => resolving
    · exact (records_warn _).bind fun _ => resolving
  · exact resolving

lemma records_buildWheel (h : .buildWheel ∈ stages) : p.buildWheel.Records stages := by
  refine records_now.bind fun start => records_state.bind fun y => records_staged h _ _ _ ?_
  exact (records_inSession _).bind fun _ => (records_update (by intro _; rfl)).bind fun _ =>
    records_pure _

/-- The stages before the image. -/
def earlyStages : List Stage :=
  [.authorize, .validate, .credentials, .resolveVersion, .buildWheel]

lemma records_early : p.early.Records earlyStages := by
  refine (p.records_authorize (by decide)).bind fun allowed => ?_
  split
  · refine (p.records_validate (by decide)).bind fun mode => ?_
    refine (p.records_credentials (by decide)).bind fun _ => ?_
    refine (p.records_resolveVersion (by decide) mode).bind fun request => ?_
    exact (p.records_buildWheel (by decide)).bind fun _ => records_pure _
  · exact records_pure _

/-- A run with a timing of the last stage has gone through all the others, and has a tag. -/
lemma early_of_timing {y : Publishing}
    (h : ∃ t ∈ (p.run.run y).2.progress.timings.drop y.progress.timings.length,
      t.stage = .publishImage) :
    ∃ request z, p.early.run (p.opened y) = (.ok (some request), z) ∧
      Text.IsUnicode (p.selection request).tag z.session.files.places := by
  obtain ⟨t, ht, last⟩ := h
  obtain ⟨more, hm, hmore⟩ := p.records_early (p.opened y)
  have other : ∀ t ∈ more, t.stage ≠ .publishImage := fun t hmem he => by
    have := hmore t hmem
    rw [he] at this
    exact absurd this (by decide)
  -- a run that stops with no more than these timings has none of the last stage
  have early_only {e : Failure} {z : Publishing}
      (stopped : p.stages.run (p.opened y) = (.error e, z))
      (timings : z.progress.timings = y.progress.timings ++ more) : False := by
    rw [p.run_of_stages_error stopped] at ht
    have timings : (z.entered .failed).progress.timings = y.progress.timings ++ more := timings
    rw [timings, List.drop_left] at ht
    exact other t ht last
  rcases he : p.early.run (p.opened y) with ⟨e | made, z⟩ <;> rw [he] at hm
  · have stopped : p.stages.run (p.opened y) = (.error e, z) := by
      rw [stages_eq]
      exact run_bind_of_error he
    exact (early_only stopped hm).elim
  · cases made with
    | some request =>
      refine ⟨request, z, rfl, Decidable.byContradiction fun alone => ?_⟩
      have stopped : p.stages.run (p.opened y) = (.error (p.selection request).unwritable, z) := by
        rw [stages_eq, run_bind_of_ok he]
        exact run_bind_of_error (p.publishImage_unwritable alone)
      exact early_only stopped hm
    | none =>
      have skipped : p.stages.run (p.opened y) = (.ok false, z) := by
        rw [stages_eq]
        exact run_bind_of_ok he
      rw [p.run_of_stages_ok skipped] at ht
      have timings : z.progress.timings = y.progress.timings ++ more := hm
      have done : (p.closing (p.opened y).session.clock false).run z =
          (.ok (p.result z.progress), z) :=
        rfl
      rw [done, timings, List.drop_left] at ht
      exact absurd last (other t ht)

end Publisher

end ImageRelease
