import ImageRelease.Proofs.Session.Logins

/-!
How values come to be masked.

What is masked from then on is a list that only grows at its end: a value that is empty or on it
already is passed over. `foldl_register` says what the list holds after some values, and `Orderly`
what it keeps. In a session a value comes onto the list in two ways. It is given to the mask on its
own, or it is handed over to a command by its standard input and masked right before that; a command
alone changes nothing. So what a tool masks can be read off the texts that it hands over:
`Enrols values` says of two journals that one goes on to the other and hands these values over on
the way, and `Masks handedIn` says so without naming them.
-/

namespace ImageRelease

open Session Act

/-! ### Lists of values to mask -/

/-- A list of values to mask, as it should be. -/
structure Orderly (known : List String) : Prop where
  filled : "" ∉ known
  once : known.Nodup

lemma orderly_nil : Orderly [] :=
  ⟨List.not_mem_nil, List.nodup_nil⟩

lemma Orderly.register {known : List String} (h : Orderly known) (value : String) :
    Orderly (register known value) := by
  unfold ImageRelease.register
  split
  · exact h
  · case isFalse new =>
    rw [not_or] at new
    refine ⟨?_, List.nodup_append.mpr ⟨h.once, List.nodup_singleton value, ?_⟩⟩
    · rw [List.mem_append, List.mem_singleton, not_or]
      exact ⟨h.filled, Ne.symm new.1⟩
    · rintro old ho _ hv rfl
      exact new.2 (List.mem_singleton.mp hv ▸ ho)

lemma Orderly.foldl_register {known : List String} (h : Orderly known) (values : List String) :
    Orderly (values.foldl ImageRelease.register known) := by
  induction values generalizing known with
  | nil => exact h
  | cons value rest ih => exact ih (h.register value)

lemma mem_foldl_register (known : List String) {values : List String} {value : String}
    (given : value ∈ values) (filled : value ≠ "") : value ∈ values.foldl register known := by
  rw [foldl_register, List.mem_append]
  by_cases old : value ∈ known
  · exact .inl old
  · refine .inr (List.mem_eraseDups.mpr (List.mem_filter.mpr ⟨given, ?_⟩))
    exact decide_eq_true ⟨filled, old⟩

lemma secretsOf_append_masking (journal : List Event) (value : String) :
    secretsOf (journal ++ masking journal value) = register (secretsOf journal) value := by
  rw [secretsOf_append, secretsOf_masking, register]
  split
  · exact List.append_nil _
  · rfl

/-! ### Texts that are handed over -/

/-- A text that a command was handed by its standard input. -/
def Event.handed? : Event → Option String
  | .command c _ => c.input
  | _ => none

def handedIn (new : List Event) : List String :=
  new.filterMap Event.handed?

@[simp] lemma handedIn_append (old new : List Event) :
    handedIn (old ++ new) = handedIn old ++ handedIn new :=
  List.filterMap_append

lemma handedIn_of_quiet {new : List Event} (quiet : movesOf new = []) : handedIn new = [] := by
  refine List.filterMap_eq_nil_iff.mpr fun e he => ?_
  have hq := movesOf_eq_nil.mp quiet e he
  cases e <;> simp_all [Event.move?, Event.handed?]

lemma handedIn_block (journal : List Event) (lead : String) (c : Command) (fate : Fate) :
    handedIn (block journal lead c fate) = c.input.toList := by
  have quiet := handedIn_of_quiet (movesOf_complaint journal c fate)
  rw [block_eq, handedIn_append, quiet, List.append_nil]
  change [Event.command c fate].filterMap Event.handed? = (Event.command c fate).handed?.toList
  rw [List.filterMap_cons]
  cases (Event.command c fate).handed? <;> rfl

/-! ### Journals that go on -/

/-- One journal goes on to another, some texts are handed over on the way, and what is masked by
then is what was masked before and these texts. -/
structure Enrols (values : List String) (old new : List Event) : Prop where
  goes : ∃ more, new = old ++ more ∧ handedIn more = values
  masks : secretsOf new = values.foldl register (secretsOf old)

/-- One journal goes on to another, and what is masked by then is what was masked before and the
values of the events since. -/
def Masks (values : List Event → List String) (old new : List Event) : Prop :=
  ∃ more, new = old ++ more ∧ secretsOf new = (values more).foldl register (secretsOf old)

namespace Enrols

variable {values values' : List String} {i j k : List Event}

lemma of_quiet {more : List Event} (handed : handedIn more = []) (masked : secretsOf more = []) :
    Enrols [] i (i ++ more) :=
  ⟨⟨more, rfl, handed⟩, by rw [secretsOf_append, masked, List.append_nil]; rfl⟩

lemma refl (j : List Event) : Enrols [] j j := by
  have none : Enrols [] j (j ++ []) := of_quiet rfl rfl
  rwa [List.append_nil] at none

lemma trans (h : Enrols values i j) (h' : Enrols values' j k) : Enrols (values ++ values') i k := by
  obtain ⟨old, rfl, handed⟩ := h.goes
  obtain ⟨new, rfl, handed'⟩ := h'.goes
  refine ⟨⟨old ++ new, List.append_assoc _ _ _, ?_⟩, ?_⟩
  · rw [handedIn_append, handed, handed']
  · rw [h'.masks, h.masks, List.foldl_append]

lemma logged (j : List Event) (level : Level) (text : String) :
    Enrols [] j (j ++ [.logged level text]) :=
  of_quiet rfl rfl

lemma handed (h : Enrols values i j) : Masks handedIn i j := by
  obtain ⟨more, rfl, handed⟩ := h.goes
  exact ⟨more, rfl, by rw [handed]; exact h.masks⟩

lemma constant (h : Enrols values i j) : Masks (fun _ => values) i j := by
  obtain ⟨more, rfl, -⟩ := h.goes
  exact ⟨more, rfl, h.masks⟩

end Enrols

/-- A way for journals to go on, any number of times and with lines in between. -/
class Ongoing (R : List Event → List Event → Prop) : Prop where
  refl : ∀ j, R j j
  trans : ∀ {i j k}, R i j → R j k → R i k
  logged : ∀ j level text, R j (j ++ [.logged level text])

instance : Ongoing (Enrols []) where
  refl := .refl
  trans := .trans
  logged := .logged

instance : Ongoing (Masks handedIn) where
  refl j := (Enrols.refl j).handed
  trans := by
    rintro i _ _ ⟨old, rfl, masked⟩ ⟨new, rfl, masked'⟩
    refine ⟨old ++ new, List.append_assoc _ _ _, ?_⟩
    rw [masked', masked, handedIn_append, List.foldl_append]
  logged j level text := (Enrols.logged j level text).handed

/-! ### Actions in a way -/

/-- An action takes the journal on in some way, wherever it starts and whatever comes of it. -/
def Act.Abides {σ α : Type} (R : List Event → List Event → Prop) (view : σ → Session)
    (x : Act σ α) : Prop :=
  ∀ s, R (view s).journal (view (x.run s).2).journal

namespace Act

variable {σ α β : Type} {R : List Event → List Event → Prop} {view : σ → Session}

lemma Abides.handed {x : Act σ α} (h : x.Abides (Enrols []) view) :
    x.Abides (Masks handedIn) view :=
  fun s => (h s).handed

variable [Ongoing R]

lemma abides_of_still {x : Act σ α} (h : ∀ s, (view (x.run s).2).journal = (view s).journal) :
    x.Abides R view := fun s => by
  rw [h s]
  exact Ongoing.refl _

lemma abides_pure (a : α) : (pure a : Act σ α).Abides R view :=
  abides_of_still fun _ => rfl

lemma abides_fail (e : Failure) : (fail e : Act σ α).Abides R view :=
  abides_of_still fun _ => rfl

lemma abides_state : (state : Act σ σ).Abides R view :=
  abides_of_still fun _ => rfl

lemma abides_ofExcept (r : Except Failure α) : (ofExcept r : Act σ α).Abides R view :=
  abides_of_still fun s => by rw [run_ofExcept]

lemma abides_ofRejection (r : Except Rejection α) : (ofRejection r : Act σ α).Abides R view :=
  abides_of_still fun s => by rw [run_ofRejection]

lemma Abides.bind {x : Act σ α} {f : α → Act σ β} (hx : x.Abides R view)
    (hf : ∀ a, (f a).Abides R view) : (x >>= f).Abides R view := fun s => by
  have first := hx s
  rcases run_bind_cases x f s with ⟨e, t, h, hb⟩ | ⟨a, t, h, hb⟩
  · rw [h] at first
    rw [hb]
    exact first
  · rw [h] at first
    rw [hb]
    exact Ongoing.trans first (hf a t)

lemma Abides.onFailure {x : Act σ α} {more : Failure → Act σ Unit} (hx : x.Abides R view)
    (hm : ∀ e, (more e).Abides R view) : (x.onFailure more).Abides R view := fun s => by
  have first := hx s
  rcases h : x.run s with ⟨e | a, t⟩
  · rw [h] at first
    have second := hm e t
    rw [run_onFailure_of_error h]
    rcases hr : (more e).run t with ⟨_ | _, u⟩ <;> rw [hr] at second <;>
      exact Ongoing.trans first second
  · rw [h] at first
    rw [run_onFailure_of_ok h]
    exact first

end Act

section Ways

variable {R : List Event → List Event → Prop} [Ongoing R]

lemma abides_log (level : Level) (text : String) : (log level text).Abides R id :=
  fun s => Ongoing.logged s.journal level text

lemma abides_info (text : String) : (info text).Abides R id :=
  abides_log .info text

/-- The lines around an external step change nothing about what it does. -/
lemma abides_timed {α : Type} (name : String) {body : Act Session α} (h : body.Abides R id) :
    (timed name body).Abides R id := by
  refine (abides_info _).bind fun _ => abides_state.bind fun start => ?_
  refine Abides.bind (h.onFailure fun _ => ?_) fun _ => ?_
  · exact abides_state.bind fun _ => abides_log _ _
  · exact abides_state.bind fun _ => (abides_info _).bind fun _ => abides_pure _

end Ways

/-! ### Commands -/

namespace Runner

variable (r : Runner)

lemma journal_run (argv : List String) (cwd : Option String) (overrides : Env)
    (input : Option String) (s : Session) :
    ∃ new, ((r.run argv cwd overrides input).run s).2.journal = s.journal ++ new ∧
      secretsOf new = [] ∧ handedIn new = if argv = [] then [] else input.toList := by
  by_cases ne : argv = []
  · subst ne
    exact ⟨[], (List.append_nil _).symm, rfl, rfl⟩
  · rw [r.run_eq ne, if_neg ne]
    exact ⟨_, rfl, secretsOf_block _ _ _ _, handedIn_block _ _ _ _⟩

lemma secrets_run (argv : List String) (cwd : Option String) (overrides : Env)
    (input : Option String) (s : Session) :
    ((r.run argv cwd overrides input).run s).2.secrets = s.secrets := by
  obtain ⟨new, journal, masked, -⟩ := r.journal_run argv cwd overrides input s
  rw [secrets_eq, journal, secretsOf_append, masked, List.append_nil, secrets_eq]

lemma abides_run (argv : List String) (cwd : Option String) (overrides : Env) :
    (r.run argv cwd overrides).Abides (Enrols []) id := fun s => by
  obtain ⟨new, journal, masked, handed⟩ := r.journal_run argv cwd overrides none s
  have none : handedIn new = [] := by
    rw [handed]
    split <;> rfl
  rw [id_eq, id_eq, journal]
  exact .of_quiet none masked

lemma enrols_handOver {argv : List String} (ne : argv ≠ []) (secret : String) (s : Session) :
    Enrols [secret] s.journal
      ((addSecret secret >>= fun _ => r.run argv none [] (some secret)).run s).2.journal := by
  obtain ⟨new, journal, masked, handed⟩ := r.journal_run argv none [] (some secret)
    { s with journal := s.journal ++ masking s.journal secret }
  rw [run_bind_of_ok (run_addSecret_masking secret s), journal]
  refine ⟨⟨masking s.journal secret ++ new, List.append_assoc _ _ _, ?_⟩, ?_⟩
  · rw [handedIn_append, handedIn_of_quiet (movesOf_masking _ _), handed, if_neg ne]
    rfl
  · rw [secretsOf_append, masked, List.append_nil, secretsOf_append_masking]
    rfl

lemma enrols_handOver_then {α : Type} {argv : List String} (ne : argv ≠ []) (secret : String)
    {rest : Completed → Act Session α} (quiet : ∀ done, (rest done).Abides (Enrols []) id)
    (s : Session) :
    Enrols [secret] s.journal ((addSecret secret >>= fun _ =>
      r.run argv none [] (some secret) >>= rest).run s).2.journal := by
  have handing := r.enrols_handOver ne secret s
  rw [← bind_assoc]
  rcases run_bind_cases (addSecret secret >>= fun _ => r.run argv none [] (some secret)) rest s with
    ⟨e, t, h, hb⟩ | ⟨done, t, h, hb⟩
  · rw [h] at handing
    rw [hb]
    exact handing
  · rw [h] at handing
    rw [hb]
    exact handing.trans (quiet done t)

end Runner

/-! ### Tools -/

namespace Docker

variable (d : Docker)

lemma abides_setupBuildx : d.setupBuildx.Abides (Enrols []) id :=
  abides_timed _ ((d.runner.abides_run _ _ _).bind fun _ => abides_pure ())

/-- Whatever comes of a login, its password is handed over and masked. -/
lemma enrols_login (username password : String) (registry : Option String) (s : Session) :
    Enrols [password] s.journal ((d.login username password registry).run s).2.journal := by
  let named := registry.filter (· != "")
  obtain ⟨level, text, told⟩ := run_timed ("Login to " ++ named.getD "Docker Hub")
    (do addSecret password
        let _ ← d.runner.run (d.loginCommand username named) none [] (some password)) s
  have reached := congrArg Prod.snd told
  change ((d.login username password registry).run s).2 = _ at reached
  rw [reached]
  have handing := d.runner.enrols_handOver_then
    (List.cons_ne_nil _ _ : d.loginCommand username named ≠ []) password
    (fun _ => abides_pure ()) (s.noted (.logged .info
      ("▶ " ++ ("Login to " ++ named.getD "Docker Hub") ++ " — started")))
  exact ((Enrols.logged _ _ _).trans handing).trans (.logged _ _ _)

lemma abides_build (spec : BuildSpec) : (d.build spec).Abides (Enrols []) id :=
  abides_timed _ ((d.runner.abides_run _ _ _).bind fun _ =>
    (abides_info _).bind fun _ => abides_pure _)

end Docker

namespace Ecr

variable (r : Runner) (a : Aws)

lemma abides_loginTo (registry : String) : (loginTo r a registry).Abides (Masks handedIn) id := by
  refine (r.abides_run _ _ _).handed.bind fun done s => ?_
  exact (r.enrols_handOver_then (List.cons_ne_nil _ _) _ (fun _ =>
    (abides_info _).bind fun _ => abides_pure _) s).handed

lemma abides_loginEach (registries : List String) :
    (loginEach r a registries).Abides (Masks handedIn) id := by
  induction registries with
  | nil => exact abides_pure []
  | cons registry rest ih =>
    exact (abides_loginTo r a registry).bind fun _ => ih.bind fun _ => abides_pure _

lemma abides_login (registries : List String) : (login r a registries).Abides (Masks handedIn) id :=
  abides_timed _ (abides_loginEach r a registries)

end Ecr

namespace WheelBuilder

lemma abides_wheelsIn (dist : Path) : (wheelsIn dist).Abides (Enrols []) id := by
  refine abides_state.bind fun s => ?_
  cases s.files.list? dist with
  | ok names => exact abides_pure _
  | error fault => exact abides_fail _

lemma abides_inspect (dist : Path) (name : String) : (inspect dist name).Abides (Enrols []) id := by
  refine abides_state.bind fun s => ?_
  rcases s.files.read? (dist.join name) with fault | _ | bytes
  · exact abides_fail _
  · exact abides_fail _
  · exact (abides_info _).bind fun _ => abides_pure _

lemma abides_inspectEach (dist : Path) (names : List String) :
    (inspectEach dist names).Abides (Enrols []) id := by
  induction names with
  | nil => exact abides_pure []
  | cons name rest ih =>
    exact (abides_inspect dist name).bind fun _ => ih.bind fun _ => abides_pure _

lemma abides_build (w : WheelBuilder) : w.build.Abides (Enrols []) id := by
  refine abides_state.bind fun s => (abides_wheelsIn w.dist).bind fun before => ?_
  refine Abides.bind (abides_timed _ ?_) fun _ => ?_
  · exact (w.runner.abides_run _ _ _).bind fun _ => abides_pure ()
  · split
    · exact abides_pure []
    · exact (abides_wheelsIn w.dist).bind fun after => abides_inspectEach _ _

end WheelBuilder

namespace Hub

lemma abides_giveUp {α : Type} (url message : String) :
    (giveUp url message : Act Session α).Abides (Enrols []) id :=
  (abides_log _ _).bind fun _ => abides_fail _

lemma abides_receive (url : String) (a : Url.Address) (r : Response) :
    (receive url a r).Abides (Enrols []) id := by
  unfold receive
  split
  · exact abides_fail _
  · exact abides_fail _
  · split
    · exact abides_fail _
    · split
      · exact abides_pure _
      · exact abides_giveUp _ _
      · exact abides_fail _
      · exact abides_fail _

lemma abides_ask (url : String) : (ask url).Abides (Enrols []) id :=
  fun _ => .of_quiet rfl rfl

lemma abides_fetch (url : String) : (fetch url).Abides (Enrols []) id := by
  refine (abides_ofExcept _).bind fun a => (abides_ask _).bind fun reply => ?_
  cases reply with
  | noConnection message => exact abides_giveUp _ _
  | fault fault message => exact abides_fail _
  | response r => exact abides_receive _ _ _

lemma abides_exists? (h : Hub) (repository tag : String) :
    (h.exists? repository tag).Abides (Enrols []) id := by
  refine (abides_fetch _).bind fun answer => ?_
  dsimp only
  split
  · exact (abides_info _).bind fun _ => abides_pure _
  · split
    · exact abides_pure _
    · split
      · exact abides_fail _
      · exact abides_fail _

end Hub

end ImageRelease
