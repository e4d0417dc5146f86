import ImageRelease.Proofs.Session.Wheels

/-!
What succeeds where all tools do.

A session is kind to a runner if every command that it starts will exit with zero; in a dry run no
command is started, so every session is. `Sure` actions succeed in every kind session and leave it
kind, and so does what is made of them. Only the wheels need more than that: their directory must be
one that can be looked up, and what is new in it must be files.
-/

namespace ImageRelease

open Session Act

/-- Every command that is started will succeed. -/
def Session.Kind (m : Manner) (s : Session) : Prop :=
  m.dryRun = false → ∀ o ∈ s.script, o.ending.Succeeded

/-- An action that succeeds wherever every command does. -/
def Act.Sure {α : Type} (m : Manner) (x : Act Session α) : Prop :=
  ∀ s : Session, s.Kind m → ∃ a t, x.run s = (.ok a, t) ∧ t.Kind m

namespace Session

variable {m : Manner} {s t : Session} {e : Event} {new : List Event}

lemma Kind.step (kind : s.Kind m) (h : Step m s e t) : t.Kind m := by
  cases h with
  | started => exact fun real o ho => kind real o (List.mem_of_mem_drop ho)
  | logged => exact kind
  | masked => exact kind
  | rehearsed => exact kind
  | asked => exact kind

lemma Kind.leads (kind : s.Kind m) (h : s.Leads m new t) : t.Kind m := by
  induction h with
  | nil => exact kind
  | cons step _ ih => exact ih (kind.step step)

lemma Kind.succeeds (kind : s.Kind m) (real : m.dryRun = false) :
    s.nextOutcome.ending.Succeeded := by
  unfold nextOutcome
  rcases hs : s.script with _ | ⟨o, rest⟩
  · rfl
  · exact kind real o (by rw [hs]; exact List.mem_cons_self)

end Session

namespace Act

variable {α β : Type} {m : Manner}

lemma sure_pure (a : α) : (pure a : Act Session α).Sure m := fun s kind => ⟨a, s, rfl, kind⟩

lemma sure_state : (state : Act Session Session).Sure m := fun s kind => ⟨s, s, rfl, kind⟩

lemma Sure.bind {x : Act Session α} {f : α → Act Session β} (hx : x.Sure m)
    (hf : ∀ a, (f a).Sure m) : (x >>= f).Sure m := fun s kind => by
  obtain ⟨a, t, h, kind⟩ := hx s kind
  rw [run_bind_of_ok h]
  exact hf a t kind

lemma Sure.onFailure {x : Act Session α} (hx : x.Sure m) (more : Failure → Act Session Unit) :
    (x.onFailure more).Sure m := fun s kind => by
  obtain ⟨a, t, h, kind⟩ := hx s kind
  exact ⟨a, t, run_onFailure_of_ok h, kind⟩

end Act

section

variable {m : Manner}

lemma sure_info (text : String) : (info text).Sure m := fun _ kind => ⟨(), _, rfl, kind⟩

lemma sure_addSecret (secret : String) : (addSecret secret).Sure m := fun s kind => by
  refine ⟨(), _, run_addSecret secret s, ?_⟩
  split <;> exact kind

lemma sure_timed {α : Type} (name : String) {body : Act Session α} (h : body.Sure m) :
    (timed name body).Sure m :=
  (sure_info _).bind fun _ => sure_state.bind fun _ => (h.onFailure _).bind fun _ =>
    sure_state.bind fun _ => (sure_info _).bind fun _ => sure_pure _

end

/-! ### The tools -/

variable (a : Aws)

lemma Runner.sure_run (r : Runner) {argv : List String} (ne : argv ≠ []) (cwd : Option String)
    (overrides : Env) (input : Option String) :
    (r.run argv cwd overrides input).Sure (r.manner a) := fun s kind => by
  cases hd : r.dryRun with
  | true =>
    rw [run_rehearsed hd ne]
    exact ⟨_, _, rfl, fun real => Bool.noConfusion (hd.symm.trans real)⟩
  | false =>
    obtain ⟨done, ended, -⟩ := r.conclusion_of_succeeded (kind.succeeds hd) s.journal
      (r.commandIn s argv cwd overrides input)
    rw [run_started hd ne, ended]
    exact ⟨done, _, rfl, fun real o ho => kind real o (List.mem_of_mem_drop ho)⟩

namespace Docker

variable (d : Docker)

lemma sure_setupBuildx : d.setupBuildx.Sure (d.runner.manner a) :=
  sure_timed _ ((d.runner.sure_run a (List.cons_ne_nil _ _) _ _ _).bind fun _ => sure_pure ())

lemma sure_login (username password : String) :
    (d.login username password).Sure (d.runner.manner a) :=
  sure_timed _ ((sure_addSecret _).bind fun _ =>
    (d.runner.sure_run a (List.cons_ne_nil _ _) _ _ _).bind fun _ => sure_pure ())

lemma sure_build (spec : BuildSpec) : (d.build spec).Sure (d.runner.manner a) :=
  sure_timed _ ((d.runner.sure_run a (d.buildCommand_ne_nil spec) _ _ _).bind fun _ =>
    (sure_info _).bind fun _ => sure_pure _)

end Docker

namespace Ecr

variable (r : Runner)

lemma sure_loginTo (registry : String) : (loginTo r a registry).Sure (r.manner a) :=
  (r.sure_run a (List.cons_ne_nil _ _) _ _ _).bind fun _ => (sure_addSecret _).bind fun _ =>
    (r.sure_run a (List.cons_ne_nil _ _) _ _ _).bind fun _ => (sure_info _).bind fun _ =>
      sure_pure _

lemma sure_loginEach (registries : List String) :
    (loginEach r a registries).Sure (r.manner a) := by
  induction registries with
  | nil => exact sure_pure []
  | cons registry rest ih =>
    exact (sure_loginTo a r registry).bind fun _ => ih.bind fun _ => sure_pure _

lemma sure_login (registries : List String) : (login r a registries).Sure (r.manner a) :=
  sure_timed _ (sure_loginEach a r registries)

end Ecr

/-! ### The wheels -/

namespace WheelBuilder

variable (w : WheelBuilder)

/-- What a build of wheels must find: a directory that can be looked up, and new wheels that are
files. -/
structure Finds (before after : FileTree) : Prop where
  short : after.isLong w.dist = false
  files : ∀ name ∈ newWheels (w.wheelNames before) (w.wheelNames after),
    after.isFile (w.dist.join name) = true

lemma build_isOk {s : Session} (kind : s.Kind (w.runner.manner a))
    (short : s.files.isLong w.dist = false)
    (finds : w.runner.dryRun = false → w.Finds s.files (s.filesAfter 1)) :
    (w.build.run s).1.isOk = true := by
  cases hd : w.runner.dryRun with
  | true =>
    have rehearsed : w.tool.run s = (.ok (), _) := w.run_tool_rehearsed hd s s.files
    rw [run_build, run_bind_of_ok (w.run_wheelsIn short), run_bind_of_ok rehearsed, hd]
    rfl
  | false =>
    obtain ⟨t, ran, files⟩ := w.run_tool_of_succeeded hd (kind.succeeds hd)
    have after : t.files = s.filesAfter 1 := files.trans (s.filesAfter_succ 0).symm
    obtain ⟨short', wheels⟩ := finds hd
    rw [← after] at short' wheels
    obtain ⟨report, u, inspected, -⟩ := inspectEach_of_files w.dist fun name hn =>
      wheels name ((w.mem_newWheels _).mpr ((w.mem_newWheels _).mp hn))
    rw [build_of_tool hd short ran short', inspected]
    rfl

end WheelBuilder

end ImageRelease
