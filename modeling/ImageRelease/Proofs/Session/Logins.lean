import Mathlib.Data.Nat.Find
import ImageRelease.Proofs.Entries
import ImageRelease.Proofs.Session.Twins

/-!
The exchange of a login to registries.

Outside of a dry run each registry takes two calls: the first one fetches a token with the
credentials in its environment, and the second one is handed that token. A plan knows the arguments
of a call only, so the exchange is written down here with all that a call is given, as a function of
how the calls end. `login_exchange` says that the calls of a login are the exchange, up to the first
one that fails, and which tokens are masked from then on.
-/

namespace ImageRelease

open Session Act

namespace Session

variable {s t u : Session} {calls more : List (Command × Ending)} {old new : List Event}

/-- How the command ends that comes after `i` others. -/
def endingAt (s : Session) (i : Nat) : Ending :=
  (s.script[i]?.getD {}).ending

lemma endingAt_zero (s : Session) : s.endingAt 0 = s.nextOutcome.ending := by
  rw [endingAt, nextOutcome, List.head?_eq_getElem?]

/-- From one session to another by calls; besides the calls, only lines and values to mask come into
the journal. -/
structure Exchanged (s : Session) (calls : List (Command × Ending)) (new : List Event)
    (t : Session) : Prop where
  journal : t.journal = s.journal ++ new
  made : callsOf new = calls
  env : t.env = s.env
  script : t.script = s.script.drop calls.length

namespace Exchanged

lemma append (h : Exchanged s calls old t) (h' : Exchanged t more new u) :
    Exchanged s (calls ++ more) (old ++ new) u where
  journal := by rw [h'.journal, h.journal, List.append_assoc]
  made := by rw [callsOf_append, h.made, h'.made]
  env := h'.env.trans h.env
  script := by rw [h'.script, h.script, List.drop_drop, List.length_append]

lemma of_quiet (hq : movesOf new = []) :
    Exchanged s [] new { s with journal := s.journal ++ new } :=
  ⟨rfl, callsOf_of_quiet hq, rfl, rfl⟩

lemma secrets (h : Exchanged s calls new t) : t.secrets = s.secrets ++ secretsOf new := by
  rw [secrets_eq, h.journal, secretsOf_append, ← secrets_eq]

lemma endingAt (h : Exchanged s calls new t) (i : Nat) :
    t.endingAt i = s.endingAt (calls.length + i) := by
  rw [Session.endingAt, h.script, List.getElem?_drop, Session.endingAt]

end Exchanged

end Session

/-! ### Tokens and what is masked -/

/-- Values with one more, unless that is empty or there already. -/
def register (known : List String) (token : String) : List String :=
  if token = "" ∨ token ∈ known then known else known ++ [token]

/-- What is registered one after another are the values that are not empty and were not known,
each of them once. -/
lemma foldl_register (known tokens : List String) :
    tokens.foldl register known =
      known ++ (tokens.filter fun token => token ≠ "" ∧ token ∉ known).eraseDups := by
  induction tokens using List.reverseRecOn with
  | nil => simp
  | append_singleton tokens token ih =>
    rw [List.foldl_concat, ih, List.filter_append, List.eraseDups_append, register]
    by_cases empty : token = ""
    · simp [empty]
    · by_cases old : token ∈ known
      · simp [old]
      · by_cases again : token ∈ tokens
        · simp [empty, old, again, List.removeAll, List.mem_eraseDups]
        · simp [empty, old, again, List.removeAll, List.mem_eraseDups, List.eraseDups_cons]

/-- Of the tokens that were fetched, those are masked that were not known before. -/
def Registers (known : List String) (new : List Event) : Prop :=
  known ++ secretsOf new = (tokensOf new).foldl register known

lemma Registers.append {known : List String} {old new : List Event} (h : Registers known old)
    (h' : Registers (known ++ secretsOf old) new) : Registers known (old ++ new) := by
  unfold Registers at *
  rw [secretsOf_append, ← List.append_assoc, h', h, tokensOf_append, List.foldl_append]

lemma movesOf_masking (journal : List Event) (secret : String) :
    movesOf (masking journal secret) = [] := by
  unfold masking
  split <;> rfl

lemma registers_masking {journal fetched : List Event} {token : String}
    (masked : secretsOf fetched = []) (ht : tokensOf fetched = [token]) :
    Registers (secretsOf journal) (fetched ++ masking (journal ++ fetched) token) := by
  have quiet := tokensOf_of_uncalled (callsOf_of_quiet (movesOf_masking (journal ++ fetched) token))
  unfold Registers
  rw [secretsOf_append, tokensOf_append, quiet, masked, ht, secretsOf_masking, secretsOf_append,
    masked, List.append_nil, List.nil_append, List.append_nil, List.foldl_cons, List.foldl_nil,
    register]
  split
  · rw [List.append_nil]
  · rfl

lemma registers_of_none {known : List String} {new : List Event} (masked : secretsOf new = [])
    (ht : tokensOf new = []) : Registers known new := by
  unfold Registers
  rw [masked, ht, List.append_nil, List.foldl_nil]

lemma registers_logged (known : List String) (level : Level) (text : String) :
    Registers known [.logged level text] :=
  registers_of_none rfl rfl

/-! ### One call -/

namespace Runner

variable {r : Runner}

/-- A command that is started is one call, and takes the next ending. -/
lemma exchanged_run (real : r.dryRun = false) {argv : List String} (ne : argv ≠ [])
    (overrides : Env) (input : Option String) (s : Session) :
    ∃ t, (r.run argv none overrides input).run s =
        (r.conclusion t.journal (r.commandIn s argv none overrides input)
          (.started (s.endingAt 0)), t) ∧
      s.Exchanged [(r.commandIn s argv none overrides input, s.endingAt 0)]
        (block s.journal r.lead (r.commandIn s argv none overrides input)
          (.started (s.endingAt 0))) t := by
  rw [run_started real ne, ← endingAt_zero]
  refine ⟨_, Prod.ext (r.conclusion_congr ?_ _ _) rfl, rfl, callsOf_block _ _ _ _, rfl, rfl⟩
  rw [secretsOf_append, secretsOf_block, List.append_nil]

lemma exchanged_rehearsed (dry : r.dryRun = true) {argv : List String} (ne : argv ≠ [])
    (overrides : Env) (input : Option String) (s : Session) :
    ∃ t, (r.run argv none overrides input).run s = (.ok { argv }, t) ∧
      s.Exchanged []
        (block s.journal r.lead (r.commandIn s argv none overrides input) .rehearsed) t := by
  rw [run_rehearsed dry ne]
  exact ⟨_, rfl, rfl, callsOf_block _ _ _ _, rfl, rfl⟩

end Runner

/-! ### Actions that make calls -/

namespace Act

variable {α β : Type}

/-- An action succeeds with a value after it has made calls, and the tokens that these brought are
registered. -/
def Makes (x : Act Session α) (s : Session) (calls : List (Command × Ending)) (value : α) : Prop :=
  ∃ new t, x.run s = (.ok value, t) ∧ s.Exchanged calls new t ∧ Registers s.secrets new

/-- An action fails by a call, after it has made others, and it tells how that call failed. -/
def Breaks (r : Runner) (x : Act Session α) (s : Session) (calls : List (Command × Ending))
    (last : Command × Ending) : Prop :=
  ∃ new t failure, x.run s = (.error failure, t) ∧ s.Exchanged (calls ++ [last]) new t ∧
    Registers s.secrets new ∧
    r.conclusion t.journal last.1 (.started last.2) = .error failure

variable {r : Runner} {x : Act Session α} {f : α → Act Session β} {s : Session} {value : α}
  {result : β} {calls more : List (Command × Ending)} {last : Command × Ending}

lemma Makes.bind (h : x.Makes s calls value)
    (hf : ∀ new t, s.Exchanged calls new t → (f value).Makes t more result) :
    (x >>= f).Makes s (calls ++ more) result := by
  obtain ⟨old, t, hx, made, registered⟩ := h
  obtain ⟨new, u, hu, made', registered'⟩ := hf old t made
  rw [made.secrets] at registered'
  exact ⟨old ++ new, u, by rw [run_bind_of_ok hx, hu], made.append made',
    registered.append registered'⟩

lemma Makes.before (h : x.Makes s calls value) (hf : ∀ t, (f value).Makes t [] result) :
    (x >>= f).Makes s calls result := by
  rw [← List.append_nil calls]
  exact h.bind fun _ t _ => hf t

lemma Makes.bind_breaks (h : x.Makes s calls value)
    (hf : ∀ new t, s.Exchanged calls new t → (f value).Breaks r t more last) :
    (x >>= f).Breaks r s (calls ++ more) last := by
  obtain ⟨old, t, hx, made, registered⟩ := h
  obtain ⟨new, u, failure, hu, made', registered', told⟩ := hf old t made
  rw [made.secrets] at registered'
  refine ⟨old ++ new, u, failure, by rw [run_bind_of_ok hx, hu], ?_,
    registered.append registered', told⟩
  rw [List.append_assoc]
  exact made.append made'

/-- What is said of an action holds of what it puts into the journal. -/
lemma Makes.told (h : x.Makes s calls value) {new : List Event}
    (journal : (x.run s).2.journal = s.journal ++ new) :
    (x.run s).1 = .ok value ∧ callsOf new = calls := by
  obtain ⟨old, t, hx, made, -⟩ := h
  rw [hx, made.journal] at journal
  rw [hx, ← List.append_cancel_left journal]
  exact ⟨rfl, made.made⟩

lemma Breaks.told (h : x.Breaks r s calls last) {new : List Event}
    (journal : (x.run s).2.journal = s.journal ++ new) :
    ∃ failure, (x.run s).1 = .error failure ∧ callsOf new = calls ++ [last] ∧
      r.conclusion (x.run s).2.journal last.1 (.started last.2) = .error failure := by
  obtain ⟨old, t, failure, hx, made, -, told⟩ := h
  rw [hx, made.journal] at journal
  rw [hx, ← List.append_cancel_left journal]
  exact ⟨failure, rfl, made.made, told⟩

lemma Breaks.bind (h : x.Breaks r s calls last) : (x >>= f).Breaks r s calls last := by
  obtain ⟨new, t, failure, hx, made, registered, told⟩ := h
  exact ⟨new, t, failure, run_bind_of_error hx, made, registered, told⟩

lemma makes_pure (value : α) (s : Session) : (pure value : Act Session α).Makes s [] value := by
  refine ⟨[], s, rfl, ⟨?_, rfl, rfl, rfl⟩, registers_of_none rfl rfl⟩
  rw [List.append_nil]

lemma makes_addSecret_empty (s : Session) : (addSecret "").Makes s [] () := by
  refine ⟨[], s, ?_, ⟨?_, rfl, rfl, rfl⟩, registers_of_none rfl rfl⟩
  · rw [run_addSecret, if_pos (.inl rfl)]
  · rw [List.append_nil]

lemma makes_info (text : String) (s : Session) : (info text).Makes s [] () :=
  ⟨[.logged .info text], _, rfl, .of_quiet rfl, registers_logged _ _ _⟩

/-- The lines around an external step change nothing of what it does. -/
lemma timed_exchanged {name : String} {body : Act Session α} {outcome : Except Failure α}
    {new : List Event} {t : Session}
    (h : body.run (s.noted (.logged .info ("▶ " ++ name ++ " — started"))) = (outcome, t))
    (made : (s.noted (.logged .info ("▶ " ++ name ++ " — started"))).Exchanged calls new t)
    (registered :
      Registers (s.noted (.logged .info ("▶ " ++ name ++ " — started"))).secrets new) :
    ∃ whole u, (timed name body).run s = (outcome, u) ∧ s.Exchanged calls whole u ∧
      Registers s.secrets whole ∧ secretsOf u.journal = secretsOf t.journal := by
  obtain ⟨level, text, hr⟩ := run_timed name body s
  rw [h] at hr
  have before : s.Exchanged [] [.logged .info ("▶ " ++ name ++ " — started")] _ := .of_quiet rfl
  have after : t.Exchanged [] [.logged level text] _ := .of_quiet rfl
  have whole := (before.append made).append after
  rw [List.nil_append, List.append_nil] at whole
  have opened := (registers_logged s.secrets .info ("▶ " ++ name ++ " — started")).append
    (before.secrets ▸ registered)
  refine ⟨_, _, hr, whole, opened.append (registers_logged _ level text), ?_⟩
  rw [noted, secretsOf_append]
  exact List.append_nil _

lemma Makes.timed {name : String} {body : Act Session α}
    (h : ∀ t, t.env = s.env → t.endingAt = s.endingAt → body.Makes t calls value) :
    (timed name body).Makes s calls value := by
  obtain ⟨new, t, hx, made, registered⟩ :=
    h (s.noted (.logged .info ("▶ " ++ name ++ " — started"))) rfl rfl
  obtain ⟨whole, u, hu, made, registered, -⟩ := timed_exchanged hx made registered
  exact ⟨whole, u, hu, made, registered⟩

lemma Breaks.timed {name : String} {body : Act Session α}
    (h : ∀ t, t.env = s.env → t.endingAt = s.endingAt → body.Breaks r t calls last) :
    (timed name body).Breaks r s calls last := by
  obtain ⟨new, t, failure, hx, made, registered, told⟩ :=
    h (s.noted (.logged .info ("▶ " ++ name ++ " — started"))) rfl rfl
  obtain ⟨whole, u, hu, made, registered, same⟩ := timed_exchanged hx made registered
  rw [r.conclusion_congr same.symm] at told
  exact ⟨whole, u, failure, hu, made, registered, told⟩

lemma makes_rehearsed (dry : r.dryRun = true) (s : Session) {argv : List String} (ne : argv ≠ [])
    (overrides : Env) (input : Option String) :
    (r.run argv none overrides input).Makes s [] { argv } := by
  obtain ⟨t, hr, made⟩ := r.exchanged_rehearsed dry ne overrides input s
  refine ⟨_, t, hr, made, registers_of_none (secretsOf_block _ _ _ _) ?_⟩
  rw [tokensOf_block]
  rfl

variable (real : r.dryRun = false) {argv : List String} (ne : argv ≠ []) (overrides : Env)
  (input : Option String)
include real ne

lemma makes_run (other : argv.take 3 ≠ ["aws", "ecr", "get-login-password"])
    (h : (s.endingAt 0).Succeeded) :
    ∃ done, (r.run argv none overrides input).Makes s
      [(r.commandIn s argv none overrides input, s.endingAt 0)] done := by
  obtain ⟨t, hr, made⟩ := r.exchanged_run real ne overrides input s
  obtain ⟨done, hd, -⟩ := r.conclusion_of_succeeded h t.journal
    (r.commandIn s argv none overrides input)
  rw [hd] at hr
  refine ⟨done, _, t, hr, made, registers_of_none (secretsOf_block _ _ _ _) ?_⟩
  rw [tokensOf_block, Event.token?_started, if_neg fun asked => other asked.1]
  rfl

lemma breaks_run (h : ¬(s.endingAt 0).Succeeded) :
    (r.run argv none overrides input).Breaks r s []
      (r.commandIn s argv none overrides input, s.endingAt 0) := by
  obtain ⟨t, hr, made⟩ := r.exchanged_run real ne overrides input s
  obtain ⟨failure, failed⟩ := r.conclusion_of_failed h t.journal
    (r.commandIn s argv none overrides input)
  rw [failed] at hr
  refine ⟨_, t, failure, hr, made, registers_of_none (secretsOf_block _ _ _ _) ?_, failed⟩
  rw [tokensOf_block, Event.token?_started, if_neg fun asked => h asked.2]
  rfl

end Act

namespace Ecr

variable {r : Runner} {a : Aws}

/-- The call that fetches a token: the credentials are laid over the environment. -/
def tokenCall (r : Runner) (a : Aws) (env : Env) : Command where
  argv := ["aws", "ecr", "get-login-password", "--region", a.region]
  env := some (Entries.merge env
    [("AWS_ACCESS_KEY_ID", a.accessKeyId), ("AWS_SECRET_ACCESS_KEY", a.secretAccessKey),
      ("AWS_REGION", a.region), ("AWS_DEFAULT_REGION", a.region)])
  timeout := r.timeout

/-- The call that is handed a token, in the environment as it is. -/
def loginCall (r : Runner) (a : Aws) (registry token : String) : Command where
  argv := ["docker", "login", "--username", "AWS", "--password-stdin",
    registry ++ ".dkr.ecr." ++ a.region ++ ".amazonaws.com"]
  input := some token
  timeout := r.timeout

/-- The calls for registries, two for each, where calls end as given. -/
def exchange (r : Runner) (a : Aws) (env : Env) :
    List String → (Nat → Ending) → List (Command × Ending)
  | [], _ => []
  | registry :: rest, ends =>
    (tokenCall r a env, ends 0) :: (loginCall r a registry (ends 0).token, ends 1) ::
      exchange r a env rest fun i => ends (i + 2)

lemma length_exchange (env : Env) (registries : List String) (ends : Nat → Ending) :
    (exchange r a env registries ends).length = 2 * registries.length := by
  induction registries generalizing ends with
  | nil => rfl
  | cons registry rest ih =>
    rw [exchange, List.length_cons, List.length_cons, ih, List.length_cons]
    omega

/-- What a login does with a token that is masked. -/
def handOver (r : Runner) (a : Aws) (registry token : String) : Act Session String := do
  let _ ← r.run (loginCommand (host registry a.region)) none [] (some token)
  info ("  Logged in to " ++ host registry a.region)
  return host registry a.region

/-- A token is fetched and masked before it is handed over. -/
def fetch (r : Runner) (a : Aws) : Act Session String := do
  let token := Text.strip (← r.run (tokenCommand a.region) none a.environment).stdout
  addSecret token
  return token

lemma loginTo_eq (registry : String) :
    loginTo r a registry = fetch r a >>= handOver r a registry := by
  simp only [loginTo, fetch, handOver, bind_assoc, pure_bind]

lemma commandIn_token (s : Session) :
    r.commandIn s (tokenCommand a.region) none a.environment none = tokenCall r a s.env := by
  have some : a.environment ≠ [] := List.cons_ne_nil _ _
  rw [Runner.commandIn, if_neg some]
  rfl

/-! ### The calls of a real login -/

section Real

variable (real : r.dryRun = false) {s : Session}
include real

lemma fetch_makes (h : (s.endingAt 0).Succeeded) :
    (fetch r a).Makes s [(tokenCall r a s.env, s.endingAt 0)] (s.endingAt 0).token := by
  have ne : tokenCommand a.region ≠ [] := List.cons_ne_nil _ _
  obtain ⟨t, hr, made⟩ := r.exchanged_run real ne a.environment none s
  rw [commandIn_token] at hr made
  obtain ⟨done, hd, token⟩ := r.conclusion_of_succeeded h t.journal (tokenCall r a s.env)
  rw [hd] at hr
  have fetched : tokensOf (block s.journal r.lead (tokenCall r a s.env)
      (.started (s.endingAt 0))) = [(s.endingAt 0).token] := by
    rw [tokensOf_block, Event.token?_started, if_pos ⟨rfl, h⟩]
    rfl
  have registered : Registers s.secrets
      (block s.journal r.lead (tokenCall r a s.env) (.started (s.endingAt 0)) ++
        masking t.journal (s.endingAt 0).token) := by
    rw [made.journal]
    exact registers_masking (secretsOf_block _ _ _ _) fetched
  have masked : t.Exchanged [] (masking t.journal (s.endingAt 0).token) _ :=
    .of_quiet (movesOf_masking _ _)
  refine ⟨_, _, ?_, made.append masked, registered⟩
  rw [fetch, run_bind_of_ok hr]
  dsimp only
  rw [token, run_bind_of_ok (run_addSecret_masking _ _)]
  rfl

lemma fetch_breaks (h : ¬(s.endingAt 0).Succeeded) :
    (fetch r a).Breaks r s [] (tokenCall r a s.env, s.endingAt 0) := by
  rw [← commandIn_token]
  exact (breaks_run real (List.cons_ne_nil _ _) a.environment none h).bind

lemma handOver_makes (registry token : String) (h : (s.endingAt 0).Succeeded) :
    (handOver r a registry token).Makes s [(loginCall r a registry token, s.endingAt 0)]
      (host registry a.region) := by
  have ne : loginCommand (host registry a.region) ≠ [] := List.cons_ne_nil _ _
  have other : (loginCommand (host registry a.region)).take 3 ≠
      ["aws", "ecr", "get-login-password"] := by simp [loginCommand]
  obtain ⟨done, made⟩ := makes_run real ne [] (some token) other h
  exact made.before fun t => (makes_info _ t).before fun u => makes_pure _ u

lemma handOver_breaks (registry token : String) (h : ¬(s.endingAt 0).Succeeded) :
    (handOver r a registry token).Breaks r s [] (loginCall r a registry token, s.endingAt 0) :=
  (breaks_run real (List.cons_ne_nil _ _) [] (some token) h).bind

lemma loginTo_makes (registry : String) (h : (s.endingAt 0).Succeeded)
    (h' : (s.endingAt 1).Succeeded) :
    (loginTo r a registry).Makes s
      [(tokenCall r a s.env, s.endingAt 0),
        (loginCall r a registry (s.endingAt 0).token, s.endingAt 1)]
      (host registry a.region) := by
  rw [loginTo_eq]
  refine (fetch_makes real h).bind fun _ t made => ?_
  have next : t.endingAt 0 = s.endingAt 1 := made.endingAt 0
  rw [← next] at h' ⊢
  exact handOver_makes real registry _ h'

lemma loginEach_makes (registries : List String)
    (h : ∀ i < 2 * registries.length, (s.endingAt i).Succeeded) :
    (loginEach r a registries).Makes s (exchange r a s.env registries s.endingAt)
      (registries.map fun registry => host registry a.region) := by
  induction registries generalizing s with
  | nil => exact makes_pure [] s
  | cons registry rest ih =>
    rw [List.length_cons] at h
    refine (loginTo_makes real registry (h 0 (by omega)) (h 1 (by omega))).bind fun _ t made => ?_
    have next : t.endingAt = fun i => s.endingAt (i + 2) :=
      funext fun i => (made.endingAt i).trans (by rw [Nat.add_comm]; rfl)
    have more := ih (s := t) fun i hi => by
      rw [next]
      exact h (i + 2) (by omega)
    rw [made.env, next] at more
    exact more.before fun u => makes_pure _ u

lemma loginEach_breaks (registries : List String) {k : Nat} {call : Command × Ending}
    (hk : (exchange r a s.env registries s.endingAt)[k]? = some call)
    (h : ∀ i < k, (s.endingAt i).Succeeded) (failed : ¬(s.endingAt k).Succeeded) :
    (loginEach r a registries).Breaks r s ((exchange r a s.env registries s.endingAt).take k)
      call := by
  induction registries generalizing s k with
  | nil => cases hk
  | cons registry rest ih =>
    rcases k with _ | _ | k
    · cases hk
      refine Breaks.bind ?_
      rw [loginTo_eq]
      exact (fetch_breaks real failed).bind
    · cases hk
      refine Breaks.bind ?_
      rw [loginTo_eq]
      refine (fetch_makes real (h 0 (by omega))).bind_breaks fun _ t made => ?_
      have next : t.endingAt 0 = s.endingAt 1 := made.endingAt 0
      rw [← next] at failed ⊢
      exact handOver_breaks real registry _ failed
    · refine (loginTo_makes real registry (h 0 (by omega)) (h 1 (by omega))).bind_breaks
        fun _ t made => Breaks.bind ?_
      have next : t.endingAt = fun i => s.endingAt (i + 2) :=
        funext fun i => (made.endingAt i).trans (by rw [Nat.add_comm]; rfl)
      have more := ih (s := t) (k := k)
      rw [made.env, next] at more
      exact more hk (fun i hi => h (i + 2) (by omega)) failed

end Real

/-! ### Logins in a dry run -/

section Dry

variable (dry : r.dryRun = true) (s : Session)
include dry

lemma fetch_rehearsed : (fetch r a).Makes s [] "" :=
  (makes_rehearsed dry s (List.cons_ne_nil _ _) a.environment none).before fun t =>
    (makes_addSecret_empty t).before fun u => makes_pure _ u

lemma handOver_rehearsed (registry token : String) :
    (handOver r a registry token).Makes s [] (host registry a.region) :=
  (makes_rehearsed dry s (List.cons_ne_nil _ _) [] (some token)).before fun t =>
    (makes_info _ t).before fun u => makes_pure _ u

lemma loginTo_rehearsed (registry : String) :
    (loginTo r a registry).Makes s [] (host registry a.region) := by
  rw [loginTo_eq]
  exact (fetch_rehearsed dry s).before fun t => handOver_rehearsed dry t registry ""

lemma loginEach_rehearsed (registries : List String) :
    (loginEach r a registries).Makes s []
      (registries.map fun registry => host registry a.region) := by
  induction registries generalizing s with
  | nil => exact makes_pure [] s
  | cons registry rest ih =>
    exact (loginTo_rehearsed dry s registry).bind fun _ t _ =>
      (ih t).before fun u => makes_pure _ u

end Dry

/-! ### The whole login -/

variable (r a) (registries : List String) (s : Session)

lemma login_rehearsed (dry : r.dryRun = true) :
    (login r a registries).Makes s [] (registries.map fun registry => host registry a.region) :=
  .timed fun t _ _ => loginEach_rehearsed dry t registries

variable {r}

lemma login_makes (real : r.dryRun = false)
    (h : ∀ i < 2 * registries.length, (s.endingAt i).Succeeded) :
    (login r a registries).Makes s (exchange r a s.env registries s.endingAt)
      (registries.map fun registry => host registry a.region) :=
  .timed fun t env ends => by
    rw [← env, ← ends]
    exact loginEach_makes real registries (by rwa [ends])

lemma login_breaks (real : r.dryRun = false) {k : Nat} {call : Command × Ending}
    (hk : (exchange r a s.env registries s.endingAt)[k]? = some call)
    (h : ∀ i < k, (s.endingAt i).Succeeded) (failed : ¬(s.endingAt k).Succeeded) :
    (login r a registries).Breaks r s ((exchange r a s.env registries s.endingAt).take k) call :=
  .timed fun t env ends => by
    rw [← env, ← ends] at hk ⊢
    exact loginEach_breaks real registries hk (by rwa [ends]) (by rwa [ends])

variable (r)

lemma login_registers : ∃ new,
    ((login r a registries).run s).2.journal = s.journal ++ new ∧ Registers s.secrets new := by
  cases hd : r.dryRun with
  | true =>
    obtain ⟨new, t, hx, made, registered⟩ := login_rehearsed r a registries s hd
    exact ⟨new, by rw [hx, made.journal], registered⟩
  | false =>
    by_cases h : ∀ i < 2 * registries.length, (s.endingAt i).Succeeded
    · obtain ⟨new, t, hx, made, registered⟩ := login_makes a registries s hd h
      exact ⟨new, by rw [hx, made.journal], registered⟩
    · push Not at h
      obtain ⟨k, ⟨hk, failed⟩, least⟩ := Nat.findX h
      have before : ∀ i < k, (s.endingAt i).Succeeded := fun i hi =>
        not_not.mp fun hf => least i hi ⟨hi.trans hk, hf⟩
      rw [← length_exchange (r := r) (a := a) s.env registries s.endingAt] at hk
      obtain ⟨new, t, failure, hx, made, registered, -⟩ :=
        login_breaks a registries s hd (List.getElem?_eq_getElem hk) before failed
      exact ⟨new, by rw [hx, made.journal], registered⟩

end Ecr

end ImageRelease
