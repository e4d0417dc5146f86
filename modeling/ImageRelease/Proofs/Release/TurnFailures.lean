import ImageRelease.Proofs.Release.Turns
import ImageRelease.Proofs.Version

/-!
Turns that fail.

Where the clock is sound, a turn that fails records that its stage failed, with two exceptions: a
properties file that cannot be read leaves no record, and neither does a tag in which a surrogate
stands alone. `Fails` says everything that a turn can leave
behind when it fails, and `fails_of_take` that it does nothing else.
-/

namespace ImageRelease

open Session Act

section

variable {α β : Type} {m : Manner} {plan : List Move} {stage : Stage} {y z : Publishing}
  {e : Failure}

/-- The record of a stage that began in a sound session can be made in every later one. -/
lemma recordStage_isOk (timely : y.session.Timely) (later : y.session.MayShow z.session.clock)
    (status : StageStatus) (detail : String) :
    ((recordStage stage y.session.clock status detail).run z).1.isOk = true := by
  obtain ⟨time, sure⟩ := recordStage_sure timely (mayShow_clock _) later stage status detail
  rw [sure]
  rfl

/-- Where the end of a stage is sure, a failure comes from its body. It is recorded, and it stays
what it was. -/
lemma recordingFailure_error {body : Act Publishing α} {rest : α → Act Publishing β}
    (timely : y.session.Timely) (follows : body.FollowsFrom m Publishing.session plan y)
    (sure : ∀ a u, y.session.MayShow u.session.clock → ((rest a).run u).1.isOk = true)
    (h : (recordingFailure stage y.session.clock body >>= rest).run y = (.error e, z)) :
    ∃ u time, body.run y = (.error e, u) ∧ z = u.recorded ⟨stage, time, .failed, e.message⟩ := by
  have h := run_error_of_sure (fun a u hu => ?_) h
  · rcases hb : body.run y with ⟨e' | a, u⟩
    · obtain ⟨new, lead, -⟩ := follows.error hb
      obtain ⟨time, recorded⟩ := recordStage_sure timely (mayShow_clock _)
        (lead.mayShow (mayShow_clock _)) stage .failed e'.message
      have ended : (recordingFailure stage y.session.clock body).run y = _ :=
        run_onFailure_of_error hb
      rw [recorded, h] at ended
      cases ended
      exact ⟨u, time, rfl, rfl⟩
    · have ended : (recordingFailure stage y.session.clock body).run y = _ := run_onFailure_of_ok hb
      cases h.symm.trans ended
  · obtain ⟨new, lead, -⟩ := follows.ok (run_onFailure_eq_ok.mp hu)
    exact sure a u (lead.mayShow (mayShow_clock _))

lemma staged_error {state : JobState} {body : Act Publishing α} {detail : α → String}
    (timely : y.session.Timely) (follows : body.FollowsFrom m Publishing.session plan y)
    (h : (staged stage y.session.clock state body detail).run y = (.error e, z)) :
    ∃ u time, body.run y = (.error e, u) ∧ z = u.recorded ⟨stage, time, .failed, e.message⟩ :=
  recordingFailure_error timely follows
    (fun a u later => recordStage_isOk (z := u.entered state) timely later .ok (detail a)) h

end

namespace Publisher

variable (p : Publisher)

/-- A failure that is not recorded: of a properties file that cannot be read, or of a selection that
is no record. -/
inductive Unnoted (files : FileTree) : Turn → Failure → Prop
  | unread {mode : Mode} {e : Failure}
      (h : Properties.Unreadable files (p.root.join p.settings.propertiesFile) e) :
      Unnoted files (.resolveVersion mode) e
  | unselected {request : Request} {e : Failure}
      (h : request.selection p.settings.image.image files.places = .error e) :
      Unnoted files (.publishImage request) e

/-- Where the failure of a turn comes from. -/
def Due (y : Publishing) : Turn → Failure → Prop
  | .authorize, _ => False
  | .validate, e => ∃ r, Mode.parse p.asked = .error r ∧ e = .rejected r
  | .credentials _, e => (p.checkedLogins.run y).1 = .error e
  | .resolveVersion mode, e => p.requestFrom mode y.session.files = .error e
  | .buildWheel _, e => ((p.wheelBuilder y.session.interpreter).build.run y.session).1 = .error e
  | .publishImage request, e =>
    request.selection p.settings.image.image y.session.files.places = .error e ∨
    ∃ g, ((p.making request).run ⟨y.session, g⟩).1 = .error e

/-- What a turn that fails leaves behind. -/
inductive Fails (y : Publishing) (t : Turn) (e : Failure) : Progress → Prop
  | recorded (selection : Option Selection) (time : Int) (detail : String) (due : p.Due y t e)
      (noted : ¬p.Unnoted y.session.files t e) :
      Fails y t e ({ y.progress with selection }.timed ⟨t.stage, time, .failed, detail⟩)
  | unrecorded (due : p.Due y t e) (unnoted : p.Unnoted y.session.files t e) :
      Fails y t e y.progress

variable {p} {t : Turn} {e : Failure} {y z : Publishing} {files : FileTree}

lemma Due.later (h : p.Due y t e) : t.stage ≠ .authorize := by
  cases t <;> first | exact h.elim | exact nofun

lemma Fails.due {g : Progress} (h : p.Fails y t e g) : p.Due y t e := by
  cases h <;> assumption

lemma Fails.of_recorded {selection : Option Selection}
    (kept : z.progress = { y.progress with selection }) (time : Int) (detail : String)
    (due : p.Due y t e) (noted : ¬p.Unnoted y.session.files t e) :
    p.Fails y t e (z.recorded ⟨t.stage, time, .failed, detail⟩).progress := by
  have recorded : (z.recorded ⟨t.stage, time, .failed, detail⟩).progress =
      z.progress.timed ⟨t.stage, time, .failed, detail⟩ := rfl
  rw [recorded, kept]
  exact .recorded selection time detail due noted

lemma authorize_sure (timely : y.session.Timely) : (p.authorize.run y).1.isOk = true := by
  have sure (z : Publishing) (same : z.session = y.session) (status : StageStatus)
      (detail : String) (allowed : Bool) :
      ((do recordStage .authorize y.session.clock status detail; return allowed).run z).1.isOk =
        true := by
    exact isOk_before_pure (recordStage_isOk timely (by rw [same]; exact mayShow_clock _) _ _) _
  have step : p.authorize.run y = _ := run_bind_of_ok (x := now) rfl
  rw [step]
  dsimp only
  split
  · exact sure (y.entered .authorized) rfl .ok "" true
  · exact sure ⟨y.session, { y.progress with
      state := .skipped, warnings := y.progress.warnings ++ [p.skipWarning] }⟩ rfl _ _ false

lemma fails_validate (timely : y.session.Timely) (h : (p.take .validate).run y = (.error e, z)) :
    p.Fails y .validate e z.progress := by
  have h : p.validate.run y = (.error e, z) := run_error_of_sure (fun _ _ _ => rfl) h
  have step : p.validate.run y = _ := run_bind_of_ok (x := now) rfl
  rw [step] at h
  have follows : (do
      let mode ← Act.ofRejection (Mode.parse p.asked)
      update fun g => { g with mode := some mode }
      return mode : Act Publishing Mode).Follows p.manner Publishing.session [] :=
    (follows_ofRejection _).after fun mode => (follows_update _).after fun _ => follows_pure _
  obtain ⟨u, time, hb, rfl⟩ := recordingFailure_error timely (follows y)
    (fun _ _ later => isOk_before_pure (recordStage_isOk timely later _ _) _) h
  have hb := run_error_of_sure (fun _ _ _ => rfl) hb
  rw [run_ofRejection, Prod.mk.injEq] at hb
  obtain ⟨hb, rfl⟩ := hb
  cases asked : Mode.parse p.asked with
  | ok mode => rw [asked] at hb; cases hb
  | error r =>
    rw [asked] at hb
    cases hb
    exact .of_recorded rfl time _ ⟨r, asked, rfl⟩ nofun

lemma fails_credentials {mode : Mode} (timely : y.session.Timely)
    (h : (p.take (.credentials mode)).run y = (.error e, z)) :
    p.Fails y (.credentials mode) e z.progress := by
  have h : p.credentials.run y = (.error e, z) := run_error_of_sure (fun _ _ _ => rfl) h
  have step : p.credentials.run y = _ := run_bind_of_ok (x := now) rfl
  rw [step] at h
  obtain ⟨u, time, hb, rfl⟩ := staged_error timely (p.follows_checkedLogins y) h
  exact .of_recorded (p.keeps_checkedLogins.eq hb) time _ (congrArg Prod.fst hb) nofun

lemma noted_of_rejected {mode : Mode} {r : Rejection} :
    ¬p.Unnoted files (.resolveVersion mode) (.rejected r) :=
  fun | .unread h => nomatch h

/-- Where the version is looked up, a missing file is recorded, and one that cannot be read is
not. -/
lemma fails_lookUpVersion {mode : Mode} (timely : y.session.Timely)
    (h : (p.lookUpVersion mode y.session.clock).run y = (.error e, z)) :
    p.Fails y (.resolveVersion mode) e z.progress := by
  have step : (p.lookUpVersion mode y.session.clock).run y = _ := run_bind_of_ok (run_state y)
  rw [step] at h
  split at h
  · cases h
  · case h_2 path hr =>
    split at h
    · case isTrue release =>
      obtain ⟨time, recorded⟩ := recordStage_sure timely (mayShow_clock _) (mayShow_clock _)
        .resolveVersion .failed _
      rw [run_bind_of_ok recorded] at h
      cases h
      have due : p.requestFrom mode y.session.files =
          .error (.rejected (.propertiesNotFound path)) := by
        unfold requestFrom versionFrom
        simp only [hr, if_pos release]
      exact .of_recorded rfl time _ due noted_of_rejected
    · cases h
  · case h_3 other hr =>
    cases h
    rcases Properties.readVersion_error hr with rfl | unread
    · exact (other _ rfl).elim
    · have due : p.requestFrom mode y.session.files = .error e := by
        unfold requestFrom versionFrom
        cases unread <;> rw [hr]
      exact .unrecorded due (.unread unread)

lemma resolving_sure {mode : Mode} {version : Option String} {request : Request}
    (timely : y.session.Timely) (same : z.session = y.session)
    (made : Request.create (.mode mode) version = .ok request) :
    ((resolving mode version y.session.clock).run z).1.isOk = true := by
  have later : y.session.MayShow z.session.clock := by rw [same]; exact mayShow_clock _
  let u : Publishing :=
    ⟨z.session, { z.progress with state := .versionResolved, request := some request }⟩
  unfold resolving
  rw [made]
  have recorded :
      ((recordStage .resolveVersion y.session.clock .ok (version.getD "-")).run u).1.isOk = true :=
    recordStage_isOk (z := u) timely later _ _
  exact isOk_before_pure recorded fun _ => request

lemma fails_resolveVersion {mode : Mode} (timely : y.session.Timely)
    (h : (p.take (.resolveVersion mode)).run y = (.error e, z)) :
    p.Fails y (.resolveVersion mode) e z.progress := by
  have h : (p.resolveVersion mode).run y = (.error e, z) := run_error_of_sure (fun _ _ _ => rfl) h
  have step : (p.resolveVersion mode).run y = _ := run_bind_of_ok (x := now) rfl
  rw [step] at h
  dsimp only at h
  rcases hv : (p.lookUpVersion mode y.session.clock).run y with ⟨e' | version, u⟩
  · rw [run_bind_of_error hv] at h
    cases h
    exact fails_lookUpVersion timely hv
  rw [run_bind_of_ok hv] at h
  obtain ⟨found, rfl⟩ := p.lookUpVersion_ok hv
  -- what is left fails only for a release without a version
  have fine {w : Publishing} {request : Request} (same : w.session = u.session)
      (made : Request.create (.mode mode) version = .ok request)
      (failed : (resolving mode version u.session.clock).run w = (.error e, z)) : False := by
    have ok := resolving_sure timely same made
    rw [failed] at ok
    cases ok
  cases version with
  | some v =>
    exact (fine rfl (Request.create_of_version (p.readVersion_of_versionFrom found) mode) h).elim
  | none =>
    rw [if_pos Option.isNone_none] at h
    split at h
    · case isTrue release =>
      obtain ⟨time, recorded⟩ := recordStage_sure timely (mayShow_clock _) (mayShow_clock _)
        .resolveVersion .failed (p.settings.versionKey ++ " missing")
      rw [run_bind_of_ok recorded] at h
      cases h
      have due : p.requestFrom mode u.session.files =
          .error (.rejected (.missingVersion p.settings.versionKey)) := by
        unfold requestFrom
        rw [found]
        exact if_pos ⟨rfl, release⟩
      exact .of_recorded rfl time _ due noted_of_rejected
    · case isFalse nightly =>
      refine (fine (w := ⟨u.session, { u.progress with
        warnings := u.progress.warnings ++ [p.versionWarning] }⟩) rfl
        (Request.create_without_version nightly) h).elim

lemma fails_buildWheel {request : Request} (timely : y.session.Timely)
    (h : (p.take (.buildWheel request)).run y = (.error e, z)) :
    p.Fails y (.buildWheel request) e z.progress := by
  have h : p.buildWheel.run y = (.error e, z) := run_error_of_sure (fun _ _ _ => rfl) h
  have step : p.buildWheel.run y = _ := run_bind_of_ok (x := now) rfl
  rw [step, run_bind_of_ok (run_state y)] at h
  obtain ⟨u, time, hb, rfl⟩ := staged_error timely
    (p.follows_makingWheels y.session.interpreter y) h
  have hb := run_error_of_sure (fun _ _ _ => rfl) hb
  exact .of_recorded ((keeps_inSession _).eq hb) time _ (congrArg Prod.fst hb) nofun

lemma fails_publishImage {request : Request} (timely : y.session.Timely)
    (h : (p.take (.publishImage request)).run y = (.error e, z)) :
    p.Fails y (.publishImage request) e z.progress := by
  have h : (p.publishImage request).run y = (.error e, z) :=
    run_error_of_sure (fun _ _ _ => rfl) h
  rw [publishImage_eq, run_bind_of_ok (x := now) (t := y) rfl] at h
  have selecting := p.run_selecting request y
  cases selected : request.selection p.settings.image.image y.session.files.places with
  | error e' =>
    rw [selected] at selecting
    rw [run_bind_of_error selecting] at h
    cases h
    exact .unrecorded (.inl selected) (.unselected selected)
  | ok selection =>
    rw [selected] at selecting
    rw [run_bind_of_ok selecting] at h
    let x : Publishing :=
      ⟨y.session, { y.progress with selection := some (p.selection request) }⟩
    obtain ⟨u, time, hb, rfl⟩ := staged_error (y := x) timely
      (p.thorough_making request x).follows h
    have kept : u.progress = { y.progress with selection := some (p.selection request) } :=
      (p.keeps_making request).eq hb
    exact .of_recorded kept time _ (.inr ⟨x.progress, congrArg Prod.fst hb⟩)
      fun | .unselected failed => nomatch selected.symm.trans failed

/-- **What a turn does** when it fails. -/
theorem fails_of_take (timely : y.session.Timely) (h : (p.take t).run y = (.error e, z)) :
    p.Fails y t e z.progress := by
  cases t with
  | authorize =>
    have h : p.authorize.run y = (.error e, z) :=
      run_error_of_sure (fun allowed _ _ => by cases allowed <;> rfl) h
    have sure := authorize_sure (p := p) timely
    rw [h] at sure
    cases sure
  | validate => exact fails_validate timely h
  | credentials mode => exact fails_credentials timely h
  | resolveVersion mode => exact fails_resolveVersion timely h
  | buildWheel request => exact fails_buildWheel timely h
  | publishImage request => exact fails_publishImage timely h

end Publisher

end ImageRelease
