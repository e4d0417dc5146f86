import ImageRelease.Proofs.Session.Lookup

/-!
Two sessions side by side.

Two sessions in one world go on as one: they tell the same lines, start commands that are alike, and
fail alike. Where they may differ is what they hold secret, and so how they show a command line or
an error stream. `Paired` keeps the two journals together, block by block, with each block in terms
of the values that were secret before it; `Act.Alike` says of two actions that they keep their
sessions together, and is closed under all ways to build an action.
-/

namespace ImageRelease

open Session Act

/-- What a tool left when it exited, for the failure that tells of it. -/
def Failure.exit? : Failure → Option ToolExit
  | .rejected (.tool (.exited exit)) => some exit
  | _ => none

/-- A journal grows by nothing that is to be masked. -/
def GoesOn (old new : List Event) : Prop :=
  ∃ more, new = old ++ more ∧ secretsOf more = []

/-- What masking a value puts into a journal. -/
def masking (journal : List Event) (secret : String) : List Event :=
  if secret = "" ∨ secret ∈ secretsOf journal then [] else [.masked secret]

lemma secretsOf_masking (journal : List Event) (secret : String) :
    secretsOf (masking journal secret) =
      if secret = "" ∨ secret ∈ secretsOf journal then [] else [secret] := by
  unfold masking
  split <;> rfl

/-- A token that a command has fetched for a login to Amazon ECR. -/
def Event.token? : Event → Option String
  | .command c (.started (.exited status stdout _)) =>
    if c.argv.take 3 = ["aws", "ecr", "get-login-password"] ∧ status = 0 then
      some (Text.strip stdout)
    else none
  | _ => none

def tokensOf (journal : List Event) : List String :=
  journal.filterMap Event.token?

lemma Event.token?_started (c : Command) (e : Ending) :
    (Event.command c (.started e)).token? =
      if c.argv.take 3 = ["aws", "ecr", "get-login-password"] ∧ e.Succeeded then some e.token
      else none := by
  cases e with
  | exited status stdout stderr => rfl
  | _ => exact (if_neg fun h => h.2).symm

@[simp] lemma tokensOf_append (old new : List Event) :
    tokensOf (old ++ new) = tokensOf old ++ tokensOf new :=
  List.filterMap_append

lemma tokensOf_eq (new : List Event) :
    tokensOf new =
      (callsOf new).filterMap fun call => (Event.command call.1 (.started call.2)).token? := by
  rw [callsOf, List.filterMap_filterMap, tokensOf]
  congr 1
  funext e
  cases e with
  | command c fate => cases fate <;> rfl
  | logged => rfl
  | lookup => rfl
  | masked => rfl

lemma tokensOf_of_uncalled {new : List Event} (h : callsOf new = []) : tokensOf new = [] := by
  rw [tokensOf_eq, h, List.filterMap_nil]

lemma tokensOf_block (journal : List Event) (lead : String) (c : Command) (fate : Fate) :
    tokensOf (block journal lead c fate) = (Event.command c fate).token?.toList := by
  have quiet := tokensOf_of_uncalled (callsOf_of_quiet (movesOf_complaint journal c fate))
  rw [block_eq, tokensOf_append, quiet, List.append_nil]
  change [Event.command c fate].filterMap Event.token? = _
  rw [List.filterMap_cons]
  cases (Event.command c fate).token? <;> rfl

/-- How two sessions compare: where their journals start, and which commands pass for each other. -/
structure Pairing where
  left : List Event
  right : List Event
  command : Command → Command → Prop
  same : ∀ c, command c c

/-- Two journals that go on together. What is masked on the way is a token that was fetched. -/
inductive Paired (k : Pairing) : List Event → List Event → Prop
  | start : Paired k k.left k.right
  | logged {j j' : List Event} (h : Paired k j j') (level : Level) (text : String) :
      Paired k (j ++ [.logged level text]) (j' ++ [.logged level text])
  | lookup {j j' : List Event} (h : Paired k j j') (url : String) (reply : Reply) :
      Paired k (j ++ [.lookup url reply]) (j' ++ [.lookup url reply])
  | learned {j j' : List Event} (h : Paired k j j') {token : String} (ht : token ∈ tokensOf j) :
      Paired k (j ++ masking j token) (j' ++ masking j' token)
  | command {j j' : List Event} (h : Paired k j j') (lead : String) {c d : Command}
      (argv : c.argv = d.argv) (alike : k.command c d) (fate : Fate) :
      Paired k (j ++ block j lead c fate) (j' ++ block j' lead d fate)

/-- Two failures that are told alike: the same one, or that of one command, with its error stream as
either session shows it. Nothing is masked after it. -/
inductive SameFailure (k : Pairing) (j j' : List Event) : Failure → Failure → Prop
  | same (e : Failure) (plain : e.exit? = none) : SameFailure k j j' e e
  | exited {old old' : List Event} (h : Paired k old old') (lead : String) {c d : Command}
      (argv : c.argv = d.argv) {status : Int} {stdout stderr : String} (bad : status ≠ 0)
      (left : GoesOn (old ++ block old lead c (.started (.exited status stdout stderr))) j)
      (right : GoesOn (old' ++ block old' lead d (.started (.exited status stdout stderr))) j') :
      SameFailure k j j' (exitFailure old c status stderr) (exitFailure old' d status stderr)

variable {k : Pairing} {j j' i i' : List Event}

lemma GoesOn.refl (j : List Event) : GoesOn j j :=
  ⟨[], (List.append_nil j).symm, rfl⟩

lemma GoesOn.trans (h : GoesOn j j') (h' : GoesOn j' i) : GoesOn j i := by
  obtain ⟨more, rfl, hm⟩ := h
  obtain ⟨rest, rfl, hr⟩ := h'
  exact ⟨more ++ rest, List.append_assoc _ _ _, by rw [secretsOf_append, hm, hr]; rfl⟩

lemma GoesOn.secretsOf (h : GoesOn j i) : secretsOf i = secretsOf j := by
  obtain ⟨more, rfl, hm⟩ := h
  rw [secretsOf_append, hm, List.append_nil]

lemma exit?_timedOut (tool : String) (limit : Seconds) :
    (Failure.timedOut tool limit).exit? = none := by
  unfold Failure.timedOut
  split <;> rfl

lemma Paired.left_isPrefix (h : Paired k j j') : k.left <+: j := by
  induction h with
  | start => exact List.prefix_rfl
  | logged h level text ih => exact ih.trans (List.prefix_append _ _)
  | lookup h url reply ih => exact ih.trans (List.prefix_append _ _)
  | learned h ht ih => exact ih.trans (List.prefix_append _ _)
  | command h lead argv alike fate ih => exact ih.trans (List.prefix_append _ _)

lemma Paired.right_isPrefix (h : Paired k j j') : k.right <+: j' := by
  induction h with
  | start => exact List.prefix_rfl
  | logged h level text ih => exact ih.trans (List.prefix_append _ _)
  | lookup h url reply ih => exact ih.trans (List.prefix_append _ _)
  | learned h ht ih => exact ih.trans (List.prefix_append _ _)
  | command h lead argv alike fate ih => exact ih.trans (List.prefix_append _ _)

lemma SameFailure.mono {e f : Failure} (h : SameFailure k j j' e f) (hj : GoesOn j i)
    (hj' : GoesOn j' i') : SameFailure k i i' e f := by
  cases h with
  | same _ plain => exact .same e plain
  | exited h lead argv bad left right =>
    exact .exited h lead argv bad (left.trans hj) (right.trans hj')

lemma SameFailure.message {e f : Failure} (h : SameFailure k j j' e f) :
    e.message = f.message := by
  cases h with
  | same => rfl
  | exited h lead argv bad left right => simp only [exitFailure, argv]; rfl

/-- Two sessions in one world whose journals go on together. -/
structure Session.Twins (k : Pairing) (s t : Session) : Prop where
  world : t = { s with journal := t.journal }
  journals : Paired k s.journal t.journal

namespace Act

variable {σ α β : Type}

/-- Two ends of actions that are alike: the same value or failures that are told alike, and states
that belong together. -/
inductive Ends (k : Pairing) (view : σ → Session) (R : σ → σ → Prop) :
    Except Failure α × σ → Except Failure α × σ → Prop
  | ok (a : α) {s t : σ} (h : R s t) : Ends k view R (.ok a, s) (.ok a, t)
  | error {e f : Failure} {s t : σ} (hf : SameFailure k (view s).journal (view t).journal e f)
      (h : R s t) : Ends k view R (.error e, s) (.error f, t)

lemma Ends.state {k : Pairing} {view : σ → Session} {R : σ → σ → Prop}
    {x y : Except Failure α × σ} (h : Ends k view R x y) : R x.2 y.2 := by
  cases h <;> assumption

/-- What is the same for failures that are told alike is the same for the ends. -/
lemma Ends.mapError {k : Pairing} {view : σ → Session} {R : σ → σ → Prop}
    {x y : Except Failure α × σ} {g : Failure → β} (h : Ends k view R x y)
    (same : ∀ e f, SameFailure k (view x.2).journal (view y.2).journal e f → g e = g f) :
    x.1.mapError g = y.1.mapError g := by
  cases h with
  | ok => rfl
  | error hf => exact congrArg Except.error (same _ _ hf)

/-- Two actions end alike from two states. -/
def Alike (k : Pairing) (view : σ → Session) (R : σ → σ → Prop) (x y : Act σ α) (s t : σ) : Prop :=
  Ends k view R (x.run s) (y.run t)

variable {view : σ → Session} {R : σ → σ → Prop} {s t : σ}

lemma alike_pure (a : α) (h : R s t) : Alike k view R (pure a) (pure a) s t :=
  .ok a h

lemma alike_fail {e : Failure} (plain : e.exit? = none) (h : R s t) :
    Alike k view R (.fail e : Act σ α) (.fail e) s t :=
  .error (.same e plain) h

lemma Alike.state {f g : σ → Act σ β} (h : Alike k view R (f s) (g t) s t) :
    Alike k view R (Act.state >>= f) (Act.state >>= g) s t := h

lemma Alike.bind {x y : Act σ α} {f g : α → Act σ β} (hx : Alike k view R x y s t)
    (hf : ∀ a s' t', x.run s = (.ok a, s') → R s' t' → Alike k view R (f a) (g a) s' t') :
    Alike k view R (x >>= f) (y >>= g) s t := by
  unfold Alike at hx ⊢
  rw [run_bind, run_bind]
  generalize h : x.run s = p at hx hf
  generalize y.run t = q at hx
  cases hx with
  | ok a hr => exact hf a _ _ rfl hr
  | error he hr => exact .error he hr

/-- Actions that fail alike do something about it alike, as long as that masks nothing. -/
lemma Alike.onFailure {x y : Act σ α} {more more' : Failure → Act σ Unit}
    (hx : Alike k view R x y s t)
    (hm : ∀ e f s' t', SameFailure k (view s').journal (view t').journal e f → R s' t' →
      Alike k view R (more e) (more' f) s' t')
    (left : ∀ e s, GoesOn (view s).journal (view ((more e).run s).2).journal)
    (right : ∀ e s, GoesOn (view s).journal (view ((more' e).run s).2).journal) :
    Alike k view R (x.onFailure more) (y.onFailure more') s t := by
  unfold Alike at hx ⊢
  rcases h : x.run s with ⟨e | a, s'⟩ <;> rcases h' : y.run t with ⟨f | b, t'⟩ <;>
    rw [h, h'] at hx
  · cases hx with
    | error he hr =>
      rw [run_onFailure_of_error h, run_onFailure_of_error h']
      have more_alike := hm e f s' t' he hr
      have grown := he.mono (left e s') (right f t')
      unfold Alike at more_alike
      generalize (more e).run s' = p at more_alike grown
      generalize (more' f).run t' = q at more_alike grown
      cases more_alike with
      | ok u hr => exact .error grown hr
      | error he hr => exact .error he hr
  · cases hx
  · cases hx
  · rw [run_onFailure_of_ok h, run_onFailure_of_ok h']
    exact hx

/-- Two actions end alike from all states that belong together. -/
def Together (k : Pairing) (view : σ → Session) (R : σ → σ → Prop) (x y : Act σ α) : Prop :=
  ∀ s t, R s t → Alike k view R x y s t

lemma together_pure (a : α) : Together k view R (pure a) (pure a) :=
  fun _ _ h => alike_pure a h

lemma together_fail {e : Failure} (plain : e.exit? = none) :
    Together k view R (.fail e : Act σ α) (.fail e) :=
  fun _ _ h => alike_fail plain h

lemma together_ofExcept {r : Except Failure α} (plain : ∀ e, r = .error e → e.exit? = none) :
    Together k view R (.ofExcept r) (.ofExcept r) := fun _ _ h => by
  cases r with
  | ok a => exact .ok a h
  | error e => exact .error (.same e (plain e rfl)) h

lemma together_ofRejection {r : Except Rejection α}
    (plain : ∀ e, r = .error e → (Failure.rejected e).exit? = none) :
    Together k view R (.ofRejection r) (.ofRejection r) := fun _ _ h => by
  cases r with
  | ok a => exact .ok a h
  | error e => exact .error (.same _ (plain e rfl)) h

lemma Together.bind {x y : Act σ α} {f g : α → Act σ β} (hx : Together k view R x y)
    (hf : ∀ a, Together k view R (f a) (g a)) : Together k view R (x >>= f) (y >>= g) :=
  fun s t h => (hx s t h).bind fun a s' t' _ h' => hf a s' t' h'

end Act

/-! ### Sessions that go on together -/

namespace Session.Twins

variable {s t : Session}

lemma env (h : Twins k s t) : t.env = s.env := by rw [h.world]

lemma files (h : Twins k s t) : t.files = s.files := by rw [h.world]

lemma clock (h : Twins k s t) : t.clock = s.clock := by rw [h.world]

lemma reply (h : Twins k s t) : t.reply = s.reply := by rw [h.world]

lemma interpreter (h : Twins k s t) : t.interpreter = s.interpreter := by rw [h.world]

lemma nextOutcome (h : Twins k s t) : t.nextOutcome = s.nextOutcome := by rw [h.world]; rfl

lemma grow (h : Twins k s t) {new new' : List Event}
    (hj : Paired k (s.journal ++ new) (t.journal ++ new')) :
    Twins k { s with journal := s.journal ++ new } { t with journal := t.journal ++ new' } :=
  ⟨by rw [h.world], hj⟩

lemma logged (h : Twins k s t) (level : Level) (text : String) :
    Twins k (s.noted (.logged level text)) (t.noted (.logged level text)) :=
  h.grow (h.journals.logged level text)

lemma proceed (h : Twins k s t) : Twins k s.proceed t.proceed :=
  ⟨by rw [h.world]; rfl, h.journals⟩

lemma replied (h : Twins k s t) : Twins k s.replied t.replied :=
  ⟨by rw [h.world]; rfl, h.journals⟩

end Session.Twins

lemma together_log (level : Level) (text : String) :
    Together k id (Twins k) (log level text) (log level text) :=
  fun _ _ h => .ok () (h.logged level text)

lemma together_info (text : String) : Together k id (Twins k) (info text) (info text) :=
  together_log .info text

lemma log_goesOn (level : Level) (text : String) (s : Session) :
    GoesOn s.journal ((log level text).run s).2.journal :=
  ⟨[.logged level text], rfl, rfl⟩

lemma together_timed {α : Type} (name : String) {x y : Act Session α}
    (h : Together k id (Twins k) x y) :
    Together k id (Twins k) (timed name x) (timed name y) := by
  refine (together_info _).bind fun _ s t hst => Alike.state ?_
  rw [hst.clock]
  refine Alike.bind (Alike.onFailure (h s t hst) ?_ ?_ ?_) fun a s' t' _ h' => Alike.state ?_
  · intro e f s' t' _ h'
    refine Alike.state ?_
    rw [h'.clock]
    exact together_log _ _ s' t' h'
  · exact fun _ s' => log_goesOn _ _ s'
  · exact fun _ s' => log_goesOn _ _ s'
  · rw [h'.clock]
    exact (together_info _).bind (fun _ => together_pure a) s' t' h'

lemma run_addSecret_masking (secret : String) (s : Session) :
    (addSecret secret).run s =
      (.ok (), { s with journal := s.journal ++ masking s.journal secret }) := by
  rw [run_addSecret, masking, secrets_eq]
  split
  · rw [List.append_nil]
  · rfl

namespace Runner

variable (r : Runner)

lemma fateIn_twins {s t : Session} (h : Twins k s t) : r.fateIn t = r.fateIn s := by
  rw [fateIn, fateIn, h.nextOutcome]

lemma worldAfter_twins {s t : Session} (h : Twins k s t) :
    Twins k (r.worldAfter s) (r.worldAfter t) := by
  unfold worldAfter
  split
  · exact h
  · exact h.proceed

@[simp] lemma journal_worldAfter (s : Session) : (r.worldAfter s).journal = s.journal := by
  unfold worldAfter
  split <;> rfl

lemma together_run {argv : List String} (ne : argv ≠ []) (cwd : Option String)
    {overrides overrides' : Env} {input input' : Option String}
    (alike : ∀ s, k.command (r.commandIn s argv cwd overrides input)
      (r.commandIn s argv cwd overrides' input')) :
    Together k id (Twins k) (r.run argv cwd overrides input)
      (r.run argv cwd overrides' input') := by
  intro s t h
  have alike' : k.command (r.commandIn s argv cwd overrides input)
      (r.commandIn t argv cwd overrides' input') := by
    have := alike s
    simpa only [commandIn, h.env] using this
  have shape : (r.commandIn s argv cwd overrides input).argv =
      (r.commandIn t argv cwd overrides' input').argv := rfl
  have together : Twins k
      { r.worldAfter s with
        journal := s.journal ++
          block s.journal r.lead (r.commandIn s argv cwd overrides input) (r.fateIn s) }
      { r.worldAfter t with
        journal := t.journal ++
          block t.journal r.lead (r.commandIn t argv cwd overrides' input') (r.fateIn s) } := by
    have world := r.worldAfter_twins h
    have journals := h.journals.command r.lead shape alike' (r.fateIn s)
    rw [← r.journal_worldAfter s, ← r.journal_worldAfter t] at journals ⊢
    exact world.grow journals
  unfold Alike
  rw [r.run_eq ne, r.run_eq ne, r.fateIn_twins h]
  rcases hf : r.fateIn s with _ | ⟨status, stdout, stderr⟩ | _ | _ | _ | _ | _ <;>
    rw [hf] at together
  · exact .ok _ together
  · by_cases hz : status = 0
    · simp only [conclusion, hz, ↓reduceIte] at together ⊢
      exact .ok _ together
    · simp only [conclusion, hz, ↓reduceIte] at together ⊢
      exact .error (.exited h.journals r.lead shape hz (.refl _) (.refl _)) together
  · exact .error (.same _ rfl) together
  · exact .error (.same _ rfl) together
  · exact .error (.same _ (exit?_timedOut _ _)) together
  · exact .error (.same _ rfl) together
  · exact .error (.same _ rfl) together

lemma token_known {region : String} {cwd : Option String} {overrides : Env}
    {input : Option String} {s t : Session} {done : Completed}
    (h : (r.run (Ecr.tokenCommand region) cwd overrides input).run s = (.ok done, t)) :
    Text.strip done.stdout = "" ∨ Text.strip done.stdout ∈ tokensOf t.journal := by
  have ne : Ecr.tokenCommand region ≠ [] := List.cons_ne_nil _ _
  rw [r.run_eq ne, Prod.mk.injEq] at h
  obtain ⟨hd, rfl⟩ := h
  cases hf : r.fateIn s with
  | rehearsed =>
    rw [hf] at hd
    cases hd
    exact .inl rfl
  | started e =>
    rw [hf] at hd
    have succeeded : e.Succeeded := by
      refine of_decide_eq_true ?_
      rw [← r.conclusion_isOk, hd]
      rfl
    obtain ⟨_, hd', stripped⟩ := r.conclusion_of_succeeded succeeded s.journal
      (r.commandIn s (Ecr.tokenCommand region) cwd overrides input)
    cases hd.symm.trans hd'
    right
    rw [stripped, tokensOf_append, tokensOf_block, Event.token?_started, if_pos ⟨rfl, succeeded⟩]
    exact List.mem_append_right _ List.mem_cons_self

end Runner

lemma masking_empty (journal : List Event) : masking journal "" = [] :=
  if_pos (.inl rfl)

lemma together_addSecret {token : String} {s t : Session} (h : Twins k s t)
    (ht : token = "" ∨ token ∈ tokensOf s.journal) :
    Alike k id (Twins k) (addSecret token) (addSecret token) s t := by
  unfold Alike
  rw [run_addSecret_masking, run_addSecret_masking]
  refine .ok () (h.grow ?_)
  rcases ht with rfl | ht
  · rw [masking_empty, masking_empty, List.append_nil, List.append_nil]
    exact h.journals
  · exact h.journals.learned ht

lemma run_addSecret_known {secret : String} {s : Session} (h : secret = "" ∨ secret ∈ s.secrets) :
    (addSecret secret).run s = (.ok (), s) := by
  rw [run_addSecret, if_pos h]

namespace Docker

variable (d : Docker)

lemma together_setupBuildx : Together k id (Twins k) d.setupBuildx d.setupBuildx :=
  together_timed _ ((d.runner.together_run (List.cons_ne_nil _ _) none fun _ => k.same _).bind
    fun _ => together_pure ())

lemma together_build (spec : BuildSpec) :
    Together k id (Twins k) (d.build spec) (d.build spec) :=
  together_timed _
    ((d.runner.together_run (d.buildCommand_ne_nil spec) none fun _ => k.same _).bind fun done =>
      (together_info _).bind fun _ => together_pure done)

/-- A login with either password, both of which are masked from the start. -/
lemma together_login (username : String) {password password' : String}
    (known : password = "" ∨ password ∈ secretsOf k.left)
    (known' : password' = "" ∨ password' ∈ secretsOf k.right)
    (alike : ∀ s, k.command
      (d.runner.commandIn s (d.loginCommand username none) none [] (some password))
      (d.runner.commandIn s (d.loginCommand username none) none [] (some password'))) :
    Together k id (Twins k) (d.login username password) (d.login username password') := by
  refine together_timed _ fun s t h => ?_
  have left := h.journals.left_isPrefix.subset
  have right := h.journals.right_isPrefix.subset
  have hs : password = "" ∨ password ∈ s.secrets :=
    known.imp_right fun hm => (List.mem_filterMap.mp hm).elim fun e he =>
      List.mem_filterMap.mpr ⟨e, left he.1, he.2⟩
  have ht : password' = "" ∨ password' ∈ t.secrets :=
    known'.imp_right fun hm => (List.mem_filterMap.mp hm).elim fun e he =>
      List.mem_filterMap.mpr ⟨e, right he.1, he.2⟩
  unfold Alike
  rw [run_bind_of_ok (run_addSecret_known hs), run_bind_of_ok (run_addSecret_known ht)]
  exact (d.runner.together_run (List.cons_ne_nil _ _) none alike).bind
    (fun _ => together_pure ()) s t h

end Docker

namespace Ecr

variable (r : Runner)

lemma together_loginTo {a a' : Aws} (region : a'.region = a.region)
    (alike : ∀ s, k.command (r.commandIn s (tokenCommand a.region) none a.environment none)
      (r.commandIn s (tokenCommand a.region) none a'.environment none)) (registry : String) :
    Together k id (Twins k) (loginTo r a registry) (loginTo r a' registry) := by
  intro s t h
  unfold loginTo
  rw [region]
  refine Alike.bind (r.together_run (List.cons_ne_nil _ _) none alike s t h)
    fun done s' t' hd h' => ?_
  refine (together_addSecret h' (r.token_known hd)).bind fun _ s t _ h => ?_
  refine (r.together_run (List.cons_ne_nil _ _) none fun _ => k.same _).bind (fun _ => ?_) s t h
  exact (together_info _).bind fun _ => together_pure _

lemma together_login {a a' : Aws} (region : a'.region = a.region)
    (alike : ∀ s, k.command (r.commandIn s (tokenCommand a.region) none a.environment none)
      (r.commandIn s (tokenCommand a.region) none a'.environment none)) (registries : List String) :
    Together k id (Twins k) (login r a registries) (login r a' registries) := by
  refine together_timed _ ?_
  induction registries with
  | nil => exact together_pure []
  | cons registry rest ih =>
    exact (together_loginTo r region alike registry).bind fun host => ih.bind fun hosts =>
      together_pure _

end Ecr

namespace WheelBuilder

variable (w : WheelBuilder)

lemma together_wheelsIn (dist : Path) :
    Together k id (Twins k) (wheelsIn dist) (wheelsIn dist) := fun s t h => by
  refine Alike.state ?_
  rw [h.files]
  cases s.files.list? dist with
  | ok names => exact alike_pure _ h
  | error fault => exact alike_fail rfl h

lemma together_inspect (dist : Path) (name : String) :
    Together k id (Twins k) (inspect dist name) (inspect dist name) := fun s t h => by
  refine Alike.state ?_
  rw [h.files]
  rcases s.files.read? (dist.join name) with fault | _ | bytes
  · exact alike_fail rfl h
  · exact alike_fail rfl h
  · exact (together_info _).bind (fun _ => together_pure _) s t h

lemma together_inspectEach (dist : Path) (names : List String) :
    Together k id (Twins k) (inspectEach dist names) (inspectEach dist names) := by
  induction names with
  | nil => exact together_pure []
  | cons name rest ih =>
    exact (together_inspect dist name).bind fun a => ih.bind fun rest => together_pure _

lemma together_build : Together k id (Twins k) w.build w.build := fun s t h => by
  refine Alike.state ?_
  rw [h.files]
  refine ((together_wheelsIn w.dist).bind fun before => ?_) s t h
  refine (together_timed _ ?_).bind fun _ => ?_
  · exact (w.runner.together_run (List.cons_ne_nil _ _) _ fun _ => k.same _).bind fun _ =>
      together_pure ()
  · split
    · exact together_pure []
    · exact (together_wheelsIn w.dist).bind fun after => together_inspectEach _ _

end WheelBuilder

namespace Hub

lemma target_plain (url : String) (e : Failure) (h : target url = .error e) : e.exit? = none := by
  unfold target at h
  split at h
  · cases h; rfl
  · split at h
    · split at h
      · cases h
      · cases h; rfl
    · cases h

lemma together_giveUp {α : Type} (url message : String) :
    Together k id (Twins k) (giveUp url message : Act Session α) (giveUp url message) :=
  (together_log _ _).bind fun _ => together_fail rfl

lemma together_receive (url : String) (a : Url.Address) (r : Response) :
    Together k id (Twins k) (receive url a r) (receive url a r) := by
  unfold receive
  split
  · exact together_fail rfl
  · exact together_fail rfl
  · split
    · exact together_fail rfl
    · split
      · exact together_pure _
      · exact together_giveUp _ _
      · exact together_fail rfl
      · exact together_fail rfl

lemma together_ask (url : String) : Together k id (Twins k) (ask url) (ask url) := fun s t h => by
  unfold Alike
  rw [run_ask, run_ask, h.reply]
  exact .ok _ (h.replied.grow (h.journals.lookup url s.reply))

lemma together_fetch (url : String) : Together k id (Twins k) (fetch url) (fetch url) := by
  refine (together_ofExcept (target_plain url)).bind fun a => (together_ask _).bind fun reply => ?_
  cases reply with
  | response r => exact together_receive _ _ _
  | noConnection message => exact together_giveUp _ _
  | fault fault message => exact together_fail rfl

lemma together_exists? (h : Hub) (repository tag : String) :
    Together k id (Twins k) (h.exists? repository tag) (h.exists? repository tag) := by
  refine (together_fetch _).bind fun found => ?_
  obtain ⟨r, content⟩ := found
  dsimp only
  split
  · exact (together_info _).bind fun _ => together_pure _
  · split
    · exact together_pure _
    · cases r.text content with
      | ok body => exact together_fail rfl
      | error fault => exact together_fail rfl

end Hub

end ImageRelease
