import ImageRelease.Proofs.Session.Telling

/-!
Two sessions in one world, each at a time of its own.

What a session does next depends on its world and not on its clock, on what it has told or on what
it masks. `Session.Peers` keeps two sessions on a par that went on from two given ones: their worlds
are the same, and they have reached out in the same way since. `Act.Parallel` says of two actions
that they end in one way and leave their states on a par, and is closed under all ways to build an
action; times and lines may differ.
-/

namespace ImageRelease

open Session Act

lemma Failure.message_outline (e : Failure) : e.outline.message = e.message := by
  unfold Failure.outline
  split <;> rfl

lemma Failure.message_eq {e f : Failure} (same : e.outline = f.outline) :
    e.message = f.message := by
  rw [← e.message_outline, same, f.message_outline]

/-- What a command will do, whatever time it takes. -/
def Outcome.deed (o : Outcome) : List (String × FileChange) × Ending :=
  (o.changes, o.ending)

/-- Two sessions with the same environment, the same files, and the same things to come; their
clocks and their journals may differ. -/
structure Session.SameWorld (s t : Session) : Prop where
  env : t.env = s.env
  files : t.files = s.files
  script : t.script.map Outcome.deed = s.script.map Outcome.deed
  reply : t.reply = s.reply
  interpreter : t.interpreter = s.interpreter

/-- Two sessions that have gone on from two others, on a par with each other. -/
structure Session.Peers (o o' s t : Session) : Prop where
  world : s.SameWorld t
  left : ∀ reading, s.MayShow reading → o.MayShow reading
  right : ∀ reading, t.MayShow reading → o'.MayShow reading
  journals : ∃ new new', s.journal = o.journal ++ new ∧ t.journal = o'.journal ++ new' ∧
    outward new = outward new'

namespace Act

variable {σ α β : Type}

/-- Two ends of actions: the same value or failures with the same outline, and states that belong
together. -/
inductive Meet (R E : σ → σ → Prop) : Except Failure α × σ → Except Failure α × σ → Prop
  | ok (a : α) {s t : σ} (h : R s t) : Meet R E (.ok a, s) (.ok a, t)
  | error {e f : Failure} {s t : σ} (same : e.outline = f.outline) (h : E s t) :
      Meet R E (.error e, s) (.error f, t)

lemma Meet.state {R : σ → σ → Prop} {x y : Except Failure α × σ} (h : Meet R R x y) :
    R x.2 y.2 := by
  cases h <;> assumption

lemma meet_of_outline {R E : σ → σ → Prop} {r r' : Except Failure α} {s t : σ}
    (same : r.mapError Failure.outline = r'.mapError Failure.outline) (h : R s t) (he : E s t) :
    Meet R E (r, s) (r', t) := by
  rcases r with e | a <;> rcases r' with f | b
  · exact .error (Except.error.inj same) he
  · cases same
  · cases same
  · cases same
    exact .ok a h

/-- Two actions end in one way from all states that belong together. -/
def Parallel (R R' E : σ → σ → Prop) (x y : Act σ α) : Prop :=
  ∀ s t, R s t → Meet R' E (x.run s) (y.run t)

variable {R R' R'' E : σ → σ → Prop}

lemma parallel_pure (a : α) : Parallel R R E (pure a) (pure a) :=
  fun _ _ h => .ok a h

lemma parallel_fail {e f : Failure} (same : e.outline = f.outline) (weak : ∀ s t, R s t → E s t) :
    Parallel R R' E (.fail e : Act σ α) (.fail f) :=
  fun s t h => .error same (weak s t h)

lemma parallel_ofExcept (r : Except Failure α) (weak : ∀ s t, R s t → E s t) :
    Parallel R R E (.ofExcept r) (.ofExcept r) := fun s t h => by
  cases r with
  | ok a => exact .ok a h
  | error e => exact .error rfl (weak s t h)

lemma parallel_ofRejection (r : Except Rejection α) (weak : ∀ s t, R s t → E s t) :
    Parallel R R E (.ofRejection r) (.ofRejection r) := fun s t h => by
  cases r with
  | ok a => exact .ok a h
  | error e => exact .error rfl (weak s t h)

lemma parallel_state {f g : σ → Act σ β} (h : ∀ s t, R s t → Parallel R R' E (f s) (g t)) :
    Parallel R R' E (Act.state >>= f) (Act.state >>= g) :=
  fun s t hst => h s t hst s t hst

lemma Parallel.bind {x y : Act σ α} {f g : α → Act σ β} (hx : Parallel R R' E x y)
    (hf : ∀ a, Parallel R' R'' E (f a) (g a)) : Parallel R R'' E (x >>= f) (y >>= g) := by
  intro s t h
  have first := hx s t h
  rw [run_bind, run_bind]
  generalize x.run s = p at first ⊢
  generalize y.run t = q at first ⊢
  cases first with
  | ok a h' => exact hf a _ _ h'
  | error same h' => exact .error same h'

/-- What is done about a failure does not change which failure it is. -/
lemma Parallel.onFailure {E' : σ → σ → Prop} {x y : Act σ α} {more more' : Failure → Act σ Unit}
    (hx : Parallel R R' E x y)
    (hm : ∀ e f, e.outline = f.outline → Parallel E E' E' (more e) (more' f)) :
    Parallel R R' E' (x.onFailure more) (y.onFailure more') := by
  intro s t h
  have first := hx s t h
  rcases hs : x.run s with ⟨e | a, s'⟩ <;> rcases ht : y.run t with ⟨f | b, t'⟩ <;>
    rw [hs, ht] at first
  · cases first with
    | error same h' =>
      rw [run_onFailure_of_error hs, run_onFailure_of_error ht]
      have last := hm e f same s' t' h'
      generalize (more e).run s' = p at last
      generalize (more' f).run t' = q at last
      cases last with
      | ok u h' => exact .error same h'
      | error same h' => exact .error same h'
  · cases first
  · cases first
  · rw [run_onFailure_of_ok hs, run_onFailure_of_ok ht]
    cases first with
    | ok a h' => exact .ok a h'

end Act

/-! ### Sessions on a par -/

lemma Session.SameWorld.nextOutcome {s t : Session} (h : s.SameWorld t) :
    t.nextOutcome.deed = s.nextOutcome.deed := by
  have script := h.script
  unfold Session.nextOutcome
  rcases hs : s.script with _ | ⟨o, rest⟩ <;> rcases ht : t.script with _ | ⟨o', rest'⟩ <;>
    rw [hs, ht] at script
  · cases script
  · cases script
  · exact (List.cons.inj script).1

namespace Session.Peers

variable {o o' s t : Session}

lemma refl (h : o.SameWorld o') : Peers o o' o o' :=
  ⟨h, fun _ hr => hr, fun _ hr => hr, [], [], (List.append_nil _).symm, (List.append_nil _).symm,
    rfl⟩

lemma grow (h : Peers o o' s t) {new new' : List Event} (same : outward new = outward new') :
    Peers o o' { s with journal := s.journal ++ new } { t with journal := t.journal ++ new' } := by
  obtain ⟨old, old', hs, ht, reached⟩ := h.journals
  refine ⟨⟨h.world.env, h.world.files, h.world.script, h.world.reply, h.world.interpreter⟩,
    h.left, h.right, old ++ new, old' ++ new', ?_, ?_, ?_⟩
  · rw [← List.append_assoc, ← hs]
  · rw [← List.append_assoc, ← ht]
  · rw [outward_append, outward_append, reached, same]

lemma proceed (h : Peers o o' s t) : Peers o o' s.proceed t.proceed := by
  have deed := h.world.nextOutcome
  refine ⟨⟨h.world.env, ?_, ?_, h.world.reply, h.world.interpreter⟩,
    fun r hr => h.left r (.command hr), fun r hr => h.right r (.command hr), h.journals⟩
  · exact congrArg₂ FileTree.apply h.world.files (congrArg Prod.fst deed)
  · simp only [Session.proceed, List.map_drop, h.world.script]

lemma replied (h : Peers o o' s t) : Peers o o' s.replied t.replied :=
  ⟨⟨h.world.env, h.world.files, h.world.script, h.world.reply, h.world.interpreter⟩,
    fun r hr => h.left r (.reply hr), fun r hr => h.right r (.reply hr), h.journals⟩

end Session.Peers

/-- Two actions on sessions keep them on a par. -/
abbrev Session.Parallel {α : Type} (o o' : Session) (x y : Act Session α) : Prop :=
  Act.Parallel (Peers o o') (Peers o o') (Peers o o') x y

section

variable {α : Type} {o o' : Session}

lemma parallel_log (level level' : Level) (text text' : String) :
    Session.Parallel o o' (log level text) (log level' text') :=
  fun _ _ h => .ok () (h.grow rfl)

lemma parallel_info (text text' : String) : Session.Parallel o o' (info text) (info text') :=
  parallel_log _ _ _ _

lemma parallel_timed (name : String) {x y : Act Session α} (h : Session.Parallel o o' x y) :
    Session.Parallel o o' (timed name x) (timed name y) := by
  refine (parallel_info _ _).bind fun _ => parallel_state fun s t _ => ?_
  refine Parallel.bind (Parallel.onFailure h fun _ _ _ => ?_) fun a => ?_
  · exact parallel_state fun _ _ _ => parallel_log _ _ _ _
  · exact parallel_state fun _ _ _ => (parallel_info _ _).bind fun _ => parallel_pure a

lemma parallel_addSecret (secret : String) :
    Session.Parallel o o' (addSecret secret) (addSecret secret) := fun s t h => by
  rw [run_addSecret_masking, run_addSecret_masking]
  exact .ok () (h.grow (by rw [outward_masking, outward_masking]))

end

namespace Runner

variable {o o' : Session} (r : Runner)

lemma fateIn_peers {s t : Session} (h : s.SameWorld t) : r.fateIn t = r.fateIn s := by
  have ending : t.nextOutcome.ending = s.nextOutcome.ending := congrArg Prod.snd h.nextOutcome
  rw [fateIn, fateIn, ending]

/-- What a command comes to does not depend on what is masked, but for what is told of its error
stream. -/
lemma outline_conclusion (journal journal' : List Event) (c : Command) (fate : Fate) :
    (r.conclusion journal c fate).mapError Failure.outline =
      (r.conclusion journal' c fate).mapError Failure.outline := by
  rcases fate with _ | ⟨status, stdout, stderr⟩ | _ | _ | _ | _ | _
  · rfl
  · by_cases hz : status = 0
    · simp only [conclusion, hz, ↓reduceIte]
    · simp only [conclusion, hz, ↓reduceIte]
      rfl
  iterate 5 rfl

lemma parallel_run {argv : List String} (ne : argv ≠ []) (cwd : Option String) (overrides : Env)
    (input : Option String) :
    Session.Parallel o o' (r.run argv cwd overrides input) (r.run argv cwd overrides input) := by
  intro s t h
  have command : r.commandIn t argv cwd overrides input =
      r.commandIn s argv cwd overrides input := by
    simp only [commandIn, h.world.env]
  have after : Peers o o'
      { r.worldAfter s with
        journal := s.journal ++
          block s.journal r.lead (r.commandIn s argv cwd overrides input) (r.fateIn s) }
      { r.worldAfter t with
        journal := t.journal ++
          block t.journal r.lead (r.commandIn s argv cwd overrides input) (r.fateIn s) } := by
    have world : Peers o o' (r.worldAfter s) (r.worldAfter t) := by
      unfold worldAfter
      split
      · exact h
      · exact h.proceed
    rw [← r.journal_worldAfter s, ← r.journal_worldAfter t]
    exact world.grow (by rw [outward_block, outward_block])
  rw [r.run_eq ne, r.run_eq ne, r.fateIn_peers h.world, command]
  exact meet_of_outline (r.outline_conclusion _ _ _ _) after after

end Runner

section

variable {o o' : Session}

namespace Docker

variable (d : Docker)

lemma parallel_setupBuildx : Session.Parallel o o' d.setupBuildx d.setupBuildx :=
  parallel_timed _ ((d.runner.parallel_run (List.cons_ne_nil _ _) _ _ _).bind fun _ =>
    parallel_pure ())

lemma parallel_build (spec : BuildSpec) : Session.Parallel o o' (d.build spec) (d.build spec) :=
  parallel_timed _ ((d.runner.parallel_run (d.buildCommand_ne_nil spec) _ _ _).bind fun done =>
    (parallel_info _ _).bind fun _ => parallel_pure done)

lemma parallel_login (username password : String) (registry : Option String) :
    Session.Parallel o o' (d.login username password registry)
      (d.login username password registry) :=
  parallel_timed _ ((parallel_addSecret _).bind fun _ =>
    (d.runner.parallel_run (List.cons_ne_nil _ _) _ _ _).bind fun _ => parallel_pure ())

end Docker

namespace Ecr

variable (r : Runner) (a : Aws)

lemma parallel_loginTo (registry : String) :
    Session.Parallel o o' (loginTo r a registry) (loginTo r a registry) :=
  (r.parallel_run (List.cons_ne_nil _ _) _ _ _).bind fun _ => (parallel_addSecret _).bind fun _ =>
    (r.parallel_run (List.cons_ne_nil _ _) _ _ _).bind fun _ => (parallel_info _ _).bind fun _ =>
      parallel_pure _

lemma parallel_login (registries : List String) :
    Session.Parallel o o' (login r a registries) (login r a registries) := by
  refine parallel_timed _ ?_
  induction registries with
  | nil => exact parallel_pure []
  | cons registry rest ih =>
    exact (parallel_loginTo r a registry).bind fun _ => ih.bind fun _ => parallel_pure _

end Ecr

namespace WheelBuilder

variable (w : WheelBuilder)

lemma parallel_wheelsIn (dist : Path) :
    Session.Parallel o o' (wheelsIn dist) (wheelsIn dist) := by
  refine parallel_state fun s t h => ?_
  rw [h.world.files]
  cases s.files.list? dist with
  | ok names => exact parallel_pure _
  | error fault => exact parallel_fail rfl fun _ _ h => h

lemma parallel_inspect (dist : Path) (name : String) :
    Session.Parallel o o' (inspect dist name) (inspect dist name) := by
  refine parallel_state fun s t h => ?_
  rw [h.world.files]
  rcases s.files.read? (dist.join name) with fault | _ | bytes
  · exact parallel_fail rfl fun _ _ h => h
  · exact parallel_fail rfl fun _ _ h => h
  · exact (parallel_info _ _).bind fun _ => parallel_pure _

lemma parallel_inspectEach (dist : Path) (names : List String) :
    Session.Parallel o o' (inspectEach dist names) (inspectEach dist names) := by
  induction names with
  | nil => exact parallel_pure []
  | cons name rest ih =>
    exact (parallel_inspect dist name).bind fun _ => ih.bind fun _ => parallel_pure _

lemma parallel_build : Session.Parallel o o' w.build w.build := by
  refine parallel_state fun s t h => ?_
  rw [h.world.files]
  refine (parallel_wheelsIn w.dist).bind fun before => ?_
  refine (parallel_timed _ ?_).bind fun _ => ?_
  · exact (w.runner.parallel_run (List.cons_ne_nil _ _) _ _ _).bind fun _ => parallel_pure ()
  · split
    · exact parallel_pure []
    · exact (parallel_wheelsIn w.dist).bind fun _ => parallel_inspectEach _ _

end WheelBuilder

namespace Hub

lemma parallel_giveUp {α : Type} (url message : String) :
    Session.Parallel o o' (giveUp url message : Act Session α) (giveUp url message) :=
  (parallel_log _ _ _ _).bind fun _ => parallel_fail rfl fun _ _ h => h

lemma parallel_receive (url : String) (a : Url.Address) (r : Response) :
    Session.Parallel o o' (receive url a r) (receive url a r) := by
  have stop (e : Failure) :
      Session.Parallel o o' (.fail e : Act Session (Response × List UInt8)) (.fail e) :=
    parallel_fail rfl fun _ _ h => h
  unfold receive
  split
  · exact stop _
  · exact stop _
  · split
    · exact stop _
    · split
      · exact parallel_pure _
      · exact parallel_giveUp _ _
      · exact stop _
      · exact stop _

lemma parallel_ask (url : String) : Session.Parallel o o' (ask url) (ask url) := fun s t h => by
  rw [run_ask, run_ask, h.world.reply]
  exact .ok _ (h.replied.grow rfl)

lemma parallel_fetch (url : String) : Session.Parallel o o' (fetch url) (fetch url) := by
  refine (parallel_ofExcept _ fun _ _ h => h).bind fun a => (parallel_ask _).bind fun reply => ?_
  cases reply with
  | response r => exact parallel_receive _ _ _
  | noConnection message => exact parallel_giveUp _ _
  | fault fault message => exact parallel_fail rfl fun _ _ h => h

lemma parallel_exists? (h : Hub) (repository tag : String) :
    Session.Parallel o o' (h.exists? repository tag) (h.exists? repository tag) := by
  refine (parallel_fetch _).bind fun found => ?_
  obtain ⟨r, content⟩ := found
  dsimp only
  split
  · exact (parallel_info _ _).bind fun _ => parallel_pure _
  · split
    · exact parallel_pure _
    · cases r.text content <;> exact parallel_fail rfl fun _ _ h => h

end Hub

end

end ImageRelease
