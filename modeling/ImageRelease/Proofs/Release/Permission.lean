import ImageRelease.Proofs.Release.OnRecord

/-!
Runs without permission.

A publisher has no effect beyond its session where its repository is barred, where it asks for a
mode that there is not, where a credential is missing, and in a dry run. The first three are found
out in this order, before anything is started, and each has an end of its own: `Cleared` says what
has been found out when a run comes to a turn, and `run_denied` how a run ends that is not admitted.
-/

namespace ImageRelease

open Session Act

/-- What reaches beyond the session: a command that was started, or a question to the registry. -/
inductive Event.IsEffect : Event → Prop
  | started (c : Command) (ending : Ending) : IsEffect (.command c (.started ending))
  | asked (url : String) (reply : Reply) : IsEffect (.lookup url reply)

lemma Event.IsEffect.isMove {e : Event} (h : e.IsEffect) : e.move? ≠ none := by
  cases h <;> exact nofun

lemma Session.Leads.earnest_of_effect {m : Manner} {s t : Session} {new : List Event}
    (h : s.Leads m new t) {e : Event} (he : e ∈ new) (effect : e.IsEffect) : m.dryRun = false := by
  induction h with
  | nil => cases he
  | cons step _ ih =>
    rcases List.mem_cons.mp he with rfl | he
    · cases effect with
      | started => cases step; assumption
      | asked => cases step; assumption
    · exact ih he

lemma Session.not_isEffect_masking {journal : List Event} {secret : String} {e : Event}
    (he : e ∈ masking journal secret) : ¬e.IsEffect := by
  unfold masking at he
  split at he
  · cases he
  · rw [List.mem_singleton.mp he]
    exact nofun

lemma Settings.mem_missingCredentials {s : Settings} {name : String} :
    name ∈ s.missingCredentials ↔ (name, "") ∈ s.credentials := by
  simp [missingCredentials, Prod.exists]

lemma Settings.missingCredentials_sublist (s : Settings) :
    s.missingCredentials.Sublist (s.credentials.map (·.1)) :=
  List.filter_sublist.map _

lemma Settings.missingCredentials_eq_nil {s : Settings} :
    s.missingCredentials = [] ↔ ∀ name, (name, "") ∉ s.credentials := by
  simp only [List.eq_nil_iff_forall_not_mem, mem_missingCredentials]

lemma Settings.validateCredentials_of_missing {s : Settings} (missing : s.missingCredentials ≠ []) :
    s.validateCredentials = .error (.missingCredentials s.missingCredentials) := by
  unfold validateCredentials
  split
  · contradiction
  · rfl

lemma Mode.parse_word_eq_error {word : String} {r : Rejection} :
    parse (.word word) = .error r ↔
      word ∉ ["", "nightly", "release"] ∧ r = .invalidMode (.str word) := by
  simp only [parse, ofName?, List.mem_cons, List.not_mem_nil, or_false, not_or]
  by_cases blank : word = ""
  · simp [blank]
  by_cases nightly : word = "nightly"
  · simp [nightly]
  by_cases release : word = "release"
  · simp [release]
  · simp [blank, nightly, release, eq_comm]

namespace Publisher

variable (p : Publisher)

/-- Another repository than the one that may release. -/
def Barred : Prop :=
  p.repository ≠ "" ∧ p.settings.allowedRepository ≠ "" ∧
    p.repository ≠ p.settings.allowedRepository

/-- Asking for a mode that there is not. -/
def AsksInVain (word : String) : Prop :=
  p.asked = .word word ∧ word ∉ ["", "nightly", "release"]

/-- A run in earnest with a credential that is empty. -/
def Unprovided : Prop :=
  p.dryRun = false ∧ ∃ name, (name, "") ∈ p.settings.credentials

variable {p}

lemma barred_iff :
    p.Barred ↔ repositoryAllowed p.repository p.settings.allowedRepository = false := by
  simp [Barred, repositoryAllowed, and_assoc]

lemma not_barred_iff :
    ¬p.Barred ↔ repositoryAllowed p.repository p.settings.allowedRepository = true := by
  rw [barred_iff, Bool.not_eq_false]

lemma unprovided_iff : p.Unprovided ↔ ¬p.Provided := by
  rw [Unprovided, Provided, not_or, Bool.not_eq_true, Settings.missingCredentials_eq_nil]
  simp only [not_forall, not_not]

lemma parse_of_asksInVain {word : String} (h : p.AsksInVain word) :
    Mode.parse p.asked = .error (.invalidMode (.str word)) := by
  rw [h.1]
  exact Mode.parse_word_eq_error.mpr ⟨h.2, rfl⟩

/-- A mode is refused where one is asked for in vain, and nowhere else. -/
lemma asksInVain_of_refused {r : Rejection} (h : Mode.parse p.asked = .error r) :
    ∃ word, p.AsksInVain word ∧ r = .invalidMode (.str word) := by
  cases asked : p.asked with
  | nothing => rw [asked] at h; cases h
  | mode m => rw [asked] at h; cases h
  | word s =>
    rw [asked] at h
    obtain ⟨other, rfl⟩ := Mode.parse_word_eq_error.mp h
    exact ⟨s, ⟨asked, other⟩, rfl⟩

lemma isOk_parse_iff : (Mode.parse p.asked).isOk = true ↔ ∀ word, ¬p.AsksInVain word := by
  constructor
  · intro known word vain
    rw [parse_of_asksInVain vain] at known
    cases known
  · intro plain
    cases asked : Mode.parse p.asked with
    | ok mode => rfl
    | error r =>
      obtain ⟨word, vain, -⟩ := asksInVain_of_refused asked
      exact absurd vain (plain word)

lemma admitted_iff : p.Admitted ↔ ¬p.Barred ∧ (∀ word, ¬p.AsksInVain word) ∧ ¬p.Unprovided := by
  rw [Admitted, not_barred_iff, isOk_parse_iff, unprovided_iff, not_not]

/-! ### No effect -/

lemma permitted_of_effect {y : Publishing} {new : List Event}
    (lead : y.session.Leads p.manner new (p.run.run y).2.session)
    (along : Along (p.plan y.session) new (p.run.run y).1.isOk) {e : Event} (he : e ∈ new)
    (effect : e.IsEffect) : p.Admitted ∧ p.dryRun = false := by
  refine ⟨?_, lead.earnest_of_effect he effect⟩
  by_contra barred
  have none : p.plan y.session = [] := by
    rw [plan, earlyPlan, latePlan, if_neg barred, if_neg barred, List.append_nil]
  rw [none] at along
  exact effect.isMove (movesOf_eq_nil.mp along.quiet e he)

lemma no_effect_after (h : ¬(p.Admitted ∧ p.dryRun = false)) (runs : List Session) :
    ∀ e ∈ (p.after runs).session.journal, ¬e.IsEffect := by
  refine p.after_induction (motive := fun y => ∀ e ∈ y.session.journal, ¬e.IsEffect) ?_ ?_ runs
  · intro e he
    rw [journal_made] at he
    exact (List.mem_append.mp he).elim not_isEffect_masking not_isEffect_masking
  · intro y world ih e he effect
    obtain ⟨new, lead, along⟩ := p.follows_run (y.into world)
    rw [lead.journal] at he
    exact (List.mem_append.mp he).elim (fun old => ih e old effect)
      fun added => h (permitted_of_effect lead along added effect)

/-! ### The end of a run that is not admitted -/

variable (p) in
/-- What has been found out when a run comes to a turn. -/
def Cleared : Turn → Prop
  | .authorize => True
  | .validate => ¬p.Barred
  | .credentials _ => ¬p.Barred ∧ (Mode.parse p.asked).isOk = true
  | .resolveVersion _ | .buildWheel _ | .publishImage _ => p.Admitted

lemma Comes.cleared {x y : Publishing} {t : Turn} (h : p.Comes x t y) : p.Cleared t := by
  induction h with
  | start => trivial
  | @next t t' y z _ took ih =>
    have goes := p.goes_of_take took
    generalize z.progress = g at goes
    cases goes with
    | authorized _ allowed => exact not_barred_iff.mpr allowed
    | validated _ asked => exact ⟨ih, by rw [asked]; rfl⟩
    | loggedIn _ _ _ provided => exact ⟨not_barred_iff.mp ih.1, ih.2, provided⟩
    | resolved => exact ih
    | built => exact ih

/-- Without the credentials a run goes no further than to look for them. -/
lemma checkedLogins_error {y : Publishing} {e : Failure} (h : p.Unprovided)
    (failed : (p.checkedLogins.run y).1 = .error e) :
    e = .rejected (.missingCredentials p.settings.missingCredentials) := by
  have missing : p.settings.missingCredentials ≠ [] := fun none =>
    unprovided_iff.mp h (.inr none)
  rw [checkedLogins, h.1, Settings.validateCredentials_of_missing missing] at failed
  cases failed
  rfl

/-- How a run ends that is not admitted: by the first thing that is against it. -/
inductive Denied (p : Publisher) : Except Failure JobResult → Prop
  | skipped {r : JobResult} (barred : p.Barred) (state : r.state = .skipped) : Denied p (.ok r)
  | refused {word : String} (allowed : ¬p.Barred) (vain : p.AsksInVain word) :
      Denied p (.error (.rejected (.invalidMode (.str word))))
  | unprovided (allowed : ¬p.Barred) (plain : ∀ word, ¬p.AsksInVain word)
      (missing : p.Unprovided) :
      Denied p (.error (.rejected (.missingCredentials p.settings.missingCredentials)))

lemma StopsAt.denied {x : Publishing} {t : Turn} {e : Failure} (timely : x.session.Timely)
    (h : p.StopsAt x t e) (barred : ¬p.Admitted) : p.Denied (.error e) := by
  obtain ⟨y, comes, failed⟩ := h
  have cleared := comes.cleared
  have fails := fails_of_take (comes.timely timely) (Prod.ext failed rfl)
  have due := fails.due
  cases t with
  | authorize => exact due.elim
  | validate =>
    obtain ⟨r, refused, rfl⟩ := due
    obtain ⟨word, vain, rfl⟩ := asksInVain_of_refused refused
    exact .refused cleared vain
  | credentials mode =>
    have plain := isOk_parse_iff.mp cleared.2
    have missing : p.Unprovided := by
      by_contra provided
      exact barred (admitted_iff.mpr ⟨cleared.1, plain, provided⟩)
    rw [checkedLogins_error missing due]
    exact .unprovided cleared.1 plain missing
  | resolveVersion => exact absurd cleared barred
  | buildWheel => exact absurd cleared barred
  | publishImage => exact absurd cleared barred

lemma run_denied {x : Publishing} (timely : x.session.Timely) (h : ¬p.Admitted) :
    p.Denied (p.run.run x).1 := by
  have outcome := p.run_outcome timely
  rcases hx : p.run.run x with ⟨e | r, z⟩
  · rw [hx] at outcome
    cases outcome with
    | stopped stopped => exact stopped.stops.denied timely h
  · rcases p.run_ok hx with ⟨-, admitted, -⟩ | ⟨skipped, barred⟩
    · exact absurd admitted h
    · exact .skipped (barred_iff.mpr barred) skipped

variable (p)

/-- **No effect without permission**: whatever runs are made of a publisher, it starts no command
and asks no question if its repository is barred, if it asks for a mode in vain, if a credential is
missing, or if it runs dry. A run that is barred is skipped; one that is not and asks in vain is
refused for its mode; and one that could go on but for the credentials is refused for exactly those
that are empty. -/
theorem no_effect_without_permission :
    (p.Barred ∨ (¬p.Barred ∧ ∃ word, p.AsksInVain word) ∨ p.Unprovided ∨ p.dryRun = true →
      ∀ runs, ∀ e ∈ (p.after runs).session.journal, ¬e.IsEffect) ∧
    ∀ earlier world, world.Timely →
      (p.Barred → ∃ r, (p.run.run (p.onTurn earlier world)).1 = .ok r ∧ r.state = .skipped) ∧
      (∀ word, ¬p.Barred → p.AsksInVain word → (p.run.run (p.onTurn earlier world)).1 =
        .error (.rejected (.invalidMode (.str word)))) ∧
      (¬p.Barred → (∀ word, ¬p.AsksInVain word) → p.Unprovided → ∃ names,
        (p.run.run (p.onTurn earlier world)).1 = .error (.rejected (.missingCredentials names)) ∧
          names.Sublist (p.settings.credentials.map (·.1)) ∧
          ∀ name, name ∈ names ↔ (name, "") ∈ p.settings.credentials) := by
  refine ⟨fun reasons => no_effect_after ?_, fun earlier world timely => ?_⟩
  · rintro ⟨admitted, earnest⟩
    obtain ⟨allowed, plain, provided⟩ := admitted_iff.mp admitted
    rcases reasons with barred | ⟨-, word, vain⟩ | missing | dry
    · exact allowed barred
    · exact plain word vain
    · exact provided missing
    · exact Bool.noConfusion (earnest.symm.trans dry)
  have denied (h : ¬p.Admitted) : p.Denied (p.run.run (p.onTurn earlier world)).1 :=
    run_denied timely h
  rw [admitted_iff] at denied
  generalize (p.run.run (p.onTurn earlier world)).1 = result at denied ⊢
  refine ⟨fun barred => ?_, fun word allowed vain => ?_, fun allowed plain missing => ?_⟩
  · cases denied fun clear => clear.1 barred with
    | skipped _ state => exact ⟨_, rfl, state⟩
    | refused allowed => exact absurd barred allowed
    | unprovided allowed => exact absurd barred allowed
  · cases denied fun clear => clear.2.1 word vain with
    | skipped barred => exact absurd barred allowed
    | refused _ asked => rw [Asked.word.inj (vain.1.symm.trans asked.1)]
    | unprovided _ plain => exact absurd vain (plain word)
  · cases denied fun clear => clear.2.2 missing with
    | skipped barred => exact absurd barred allowed
    | refused _ vain => exact absurd vain (plain _)
    | unprovided => exact ⟨_, rfl, p.settings.missingCredentials_sublist,
        fun name => Settings.mem_missingCredentials⟩

/-- A publisher with a guard, without the password of its second login. -/
def guarded (repository word : String) : Publisher :=
  { usual "Zq8" "" ["1"] with
    asked := .word word
    repository
    settings := { Settings.usual "Zq8" "" ["1"] with allowedRepository := "ours" } }

/-- A fork is skipped, a mode that there is not is refused before the credentials are looked at, and
then the one that is missing is told. -/
theorem no_effect_without_permission_guarded :
    (Session.still [] (.response {})).Timely ∧
      (∃ r, ((guarded "fork" "beta").run.run ((guarded "fork" "beta").onTurn []
        (.still [] (.response {})))).1 = .ok r ∧ r.state = .skipped) ∧
      ((guarded "ours" "beta").run.run ((guarded "ours" "beta").onTurn []
        (.still [] (.response {})))).1 = .error (.rejected (.invalidMode (.str "beta"))) ∧
      (∃ names, ((guarded "ours" "release").run.run ((guarded "ours" "release").onTurn []
          (.still [] (.response {})))).1 = .error (.rejected (.missingCredentials names)) ∧
        "DOCKER_PASSWORD" ∈ names ∧ "DOCKER_USERNAME" ∉ names) ∧
      ∀ e ∈ ((guarded "ours" "release").after [.still [] (.response {})]).session.journal,
        ¬e.IsEffect := by
  have timely := timely_still [] (.response {})
  have barred : (guarded "fork" "beta").Barred := by refine ⟨?_, ?_, ?_⟩ <;> decide
  have allowed (word : String) : ¬(guarded "ours" word).Barred := fun h => h.2.2 rfl
  have vain : (guarded "ours" "beta").AsksInVain "beta" := ⟨rfl, by decide⟩
  have plain (word : String) : ¬(guarded "ours" "release").AsksInVain word := fun h =>
    h.2 (Asked.word.inj h.1 ▸ by decide)
  have missing : (guarded "ours" "release").Unprovided := ⟨rfl, "DOCKER_PASSWORD", by decide⟩
  obtain ⟨skipped, -, -⟩ := (no_effect_without_permission (guarded "fork" "beta")).2 [] _ timely
  obtain ⟨-, refused, -⟩ := (no_effect_without_permission (guarded "ours" "beta")).2 [] _ timely
  obtain ⟨quiet, ends⟩ := no_effect_without_permission (guarded "ours" "release")
  obtain ⟨-, -, unprovided⟩ := ends [] _ timely
  obtain ⟨names, failed, -, told⟩ := unprovided (allowed _) plain missing
  exact ⟨timely, skipped barred, refused "beta" (allowed _) vain,
    ⟨names, failed, (told _).mpr (by decide), fun h => absurd ((told _).mp h) (by decide)⟩,
    quiet (.inr (.inr (.inl missing))) _⟩

end Publisher

end ImageRelease
