import ImageRelease.Proofs.Release.Twins

/-!
A publisher in run after run.

A publisher is made once, which masks the secrets of its settings, and then it can run any number of
times. Its progress and its journal go on from run to run; the world may be another one each time.
-/

namespace ImageRelease

open Session Act

/-- A publisher in another world, with the journal that it has. -/
def Publishing.into (y : Publishing) (world : Session) : Publishing :=
  { y with session := { world with journal := y.session.journal } }

lemma Settings.credentials_given {s : Settings} (h : s.missingCredentials = []) :
    s.aws.secretAccessKey ≠ "" ∧ s.dockerHub.password ≠ "" := by
  have all := List.filter_eq_nil_iff.mp (List.map_eq_nil_iff.mp h)
  simp only [credentials, List.mem_cons, List.not_mem_nil, or_false, forall_eq_or_imp, forall_eq,
    beq_iff_eq] at all
  exact ⟨all.2.1, all.2.2.2⟩

namespace Publisher

variable (p : Publisher)

def made : Publishing :=
  ⟨(p.prepare.run { identifier := "" }).2, {}⟩

/-- What a publisher has come to after runs in some worlds, one after another. -/
def after (runs : List Session) : Publishing :=
  runs.foldl (fun y world => (p.run.run (y.into world)).2) p.made

/-- A publisher that has run in some worlds and is about to run in another one. -/
def onTurn (earlier : List Session) (world : Session) : Publishing :=
  (p.after earlier).into world

lemma after_concat (earlier : List Session) (world : Session) :
    p.after (earlier ++ [world]) = (p.run.run (p.onTurn earlier world)).2 := by
  rw [after, List.foldl_concat]
  rfl

/-- What holds of a publisher that was made, and is kept by every run, holds after all runs. -/
lemma after_induction {motive : Publishing → Prop} (made : motive p.made)
    (ran : ∀ y world, motive y → motive (p.run.run (y.into world)).2) (runs : List Session) :
    motive (p.after runs) := by
  induction runs using List.reverseRecOn with
  | nil => exact made
  | append_singleton earlier world ih =>
    rw [after_concat]
    exact ran _ world ih

/-! ### The secrets of the settings -/

lemma journal_prepare (s : Session) :
    (p.prepare.run s).2.journal = s.journal ++ masking s.journal p.settings.aws.secretAccessKey ++
      masking (s.journal ++ masking s.journal p.settings.aws.secretAccessKey)
        p.settings.dockerHub.password := by
  rw [prepare, maskEach, run_bind_of_ok (run_addSecret_masking _ s), maskEach,
    run_bind_of_ok (run_addSecret_masking _ _)]
  rfl

lemma mem_secretsOf_masking (journal : List Event) {secret : String} (some : secret ≠ "") :
    secret ∈ secretsOf (journal ++ masking journal secret) := by
  rw [secretsOf_append, secretsOf_masking]
  by_cases h : secret ∈ secretsOf journal
  · exact List.mem_append_left _ h
  · rw [if_neg (not_or.mpr ⟨some, h⟩)]
    exact List.mem_append_right _ (List.mem_singleton_self secret)

lemma journal_made : p.made.session.journal =
    masking [] p.settings.aws.secretAccessKey ++
      masking (masking [] p.settings.aws.secretAccessKey) p.settings.dockerHub.password :=
  p.journal_prepare { identifier := "" }

lemma secretsOf_made_subset : secretsOf p.made.session.journal ⊆
    [p.settings.aws.secretAccessKey, p.settings.dockerHub.password] := by
  have own (journal : List Event) (secret : String) :
      secretsOf (masking journal secret) ⊆ [secret] := by
    rw [secretsOf_masking]
    split
    · exact List.nil_subset _
    · exact List.Subset.refl _
  rw [journal_made, secretsOf_append]
  exact List.append_subset.mpr
    ⟨List.Subset.trans (own _ _) (by simp), List.Subset.trans (own _ _) (by simp)⟩

lemma made_isPrefix (runs : List Session) :
    p.made.session.journal <+: (p.after runs).session.journal := by
  refine p.after_induction (motive := fun y => p.made.session.journal <+: y.session.journal)
    List.prefix_rfl (fun y world ih => List.IsPrefix.trans ih ?_) runs
  obtain ⟨new, lead, -⟩ := p.follows_run (y.into world)
  rw [lead.journal]
  exact List.prefix_append _ _

lemma known_after {secret : String} (h : secret ∈ secretsOf p.made.session.journal)
    (runs : List Session) : secret ∈ secretsOf (p.after runs).session.journal := by
  obtain ⟨more, hm⟩ := p.made_isPrefix runs
  rw [← hm, secretsOf_append]
  exact List.mem_append_left _ h

lemma secretAccessKey_known (some : p.settings.aws.secretAccessKey ≠ "") (runs : List Session) :
    p.settings.aws.secretAccessKey ∈ secretsOf (p.after runs).session.journal := by
  refine p.known_after ?_ runs
  rw [journal_made, secretsOf_append]
  exact List.mem_append_left _ (mem_secretsOf_masking [] some)

lemma password_known (some : p.settings.dockerHub.password ≠ "") (runs : List Session) :
    p.settings.dockerHub.password ∈ secretsOf (p.after runs).session.journal := by
  refine p.known_after ?_ runs
  rw [journal_made]
  exact mem_secretsOf_masking _ some

end Publisher

end ImageRelease
