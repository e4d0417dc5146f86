import ImageRelease.Proofs.Release.History
import ImageRelease.Proofs.Session.Telling

/-!
What a publisher lets be seen of its secrets.

Two publishers that differ in their secrets alone, in the same worlds, are told apart by nothing
but the secrets that they hand over: `noninterference` compares their runs one by one. Even their
lines are the same, unless a tool shows a secret, or a secret with the character of the mask in it
comes back as a token.
-/

namespace ImageRelease

open Session Act

/-- Two commands that differ in the secrets of their publishers at most, and where these belong:
the password in the input of the login to Docker Hub, the key in a variable of its own. -/
structure Command.SameBut (p q : Publisher) (c d : Command) : Prop where
  cwd : c.cwd = d.cwd
  timeout : c.timeout = d.timeout
  input : c.input = d.input ∨
    c.argv = ["docker", "login", "--username", p.settings.dockerHub.username, "--password-stdin"] ∧
      c.input = some p.settings.dockerHub.password ∧ d.input = some q.settings.dockerHub.password
  names : c.env.map Entries.names = d.env.map Entries.names
  others : ∀ name, name ≠ "AWS_SECRET_ACCESS_KEY" →
    c.env.map (Entries.get? name) = d.env.map (Entries.get? name)

lemma Command.SameBut.refl (p q : Publisher) (c : Command) : SameBut p q c c :=
  ⟨rfl, rfl, .inl rfl, rfl, fun _ _ => rfl⟩

namespace Aws

variable (a : Aws) (secretAccessKey : String) (base : Env)

lemma environment_ne_nil : a.environment ≠ [] := by simp [environment]

lemma names_environment :
    Entries.names (Entries.merge base { a with secretAccessKey }.environment) =
      Entries.names (Entries.merge base a.environment) := by
  simp [Entries.merge, environment, Entries.names_put]

/-- The environment for a command with the key in one variable, and in no other. -/
lemma get?_environment {name : String} (h : name ≠ "AWS_SECRET_ACCESS_KEY") :
    Entries.get? name (Entries.merge base { a with secretAccessKey }.environment) =
      Entries.get? name (Entries.merge base a.environment) := by
  simp [Entries.merge, environment, h.symm]

end Aws

namespace Publisher

variable (p : Publisher) (secretAccessKey password : String)

/-- The secrets of the publisher and of its like with other ones. -/
def secretsWith : List String :=
  [p.settings.aws.secretAccessKey, p.settings.dockerHub.password, secretAccessKey, password]

/-- How the publisher and its like with other secrets compare, from where they have come to. -/
def pairing (q : Publisher) (y z : Publishing) : Pairing :=
  ⟨y.session.journal, z.session.journal, Command.SameBut p q, Command.SameBut.refl p q⟩

section Runs

variable {p secretAccessKey password} (given : p.settings.missingCredentials = [])
  (given' : (p.withSecrets secretAccessKey password).settings.missingCredentials = [])

include given given' in
lemma comparable (earlier : List Session) (world : Session) :
    let q := p.withSecrets secretAccessKey password
    Comparable (p.pairing q (p.onTurn earlier world) (q.onTurn earlier world)) p q where
  same := rfl
  provided := by rw [Settings.validateCredentials, Settings.validateCredentials, given, given']
  left_known := .inr (p.password_known (Settings.credentials_given given).2 earlier)
  right_known := .inr ((p.withSecrets secretAccessKey password).password_known
    (Settings.credentials_given given').2 earlier)
  token s := by
    refine ⟨rfl, rfl, .inl rfl, ?_, fun name other => ?_⟩
    · simp only [Runner.commandIn, Aws.environment_ne_nil, ↓reduceIte, Option.map_some]
      exact congrArg some (p.settings.aws.names_environment secretAccessKey s.env).symm
    · simp only [Runner.commandIn, Aws.environment_ne_nil, ↓reduceIte, Option.map_some]
      exact congrArg some (p.settings.aws.get?_environment secretAccessKey s.env other).symm
  login _ := ⟨rfl, rfl, .inr ⟨rfl, rfl, rfl⟩, rfl, fun _ _ => rfl⟩

include given given' in
/-- Publishers that have made the same progress end their next runs alike. -/
lemma run_alike {earlier : List Session} (world : Session)
    (progress : ((p.withSecrets secretAccessKey password).after earlier).progress =
      (p.after earlier).progress) :
    let q := p.withSecrets secretAccessKey password
    let k := p.pairing q (p.onTurn earlier world) (q.onTurn earlier world)
    Ends k Publishing.session (Publishing.Twins k) (p.run.run (p.onTurn earlier world))
      (q.run.run (q.onTurn earlier world)) :=
  together_run (comparable given given' earlier world) _ _ ⟨⟨rfl, .start⟩, progress⟩

lemma tokensOf_mono {old new : List Event} (h : old <+: new) : tokensOf old ⊆ tokensOf new := by
  obtain ⟨more, rfl⟩ := h
  exact tokensOf_subset old more

include given given' in
/-- After the same runs they have made the same progress, and they mask alike what shows none of
their secrets. -/
lemma after_twins (runs : List Session) :
    let q := p.withSecrets secretAccessKey password
    (q.after runs).progress = (p.after runs).progress ∧
      ((∀ token ∈ tokensOf (p.after runs).session.journal,
          token ∈ p.secretsWith secretAccessKey password → '*' ∉ token.toList) →
        Agree (p.secretsWith secretAccessKey password) (secretsOf (p.after runs).session.journal)
          (secretsOf (q.after runs).session.journal)) := by
  intro q
  induction runs using List.reverseRecOn with
  | nil =>
    refine ⟨rfl, fun _ => .of_subset (List.Subset.trans p.secretsOf_made_subset ?_)
      (List.Subset.trans q.secretsOf_made_subset ?_)⟩
    · simp [secretsWith]
    · simp [secretsWith, q, withSecrets]
  | append_singleton earlier world ih =>
    have ends := run_alike given given' world ih.1
    have paired := ends.state.session.journals
    rw [after_concat, after_concat]
    refine ⟨ends.state.progress, fun plain => paired.agree (ih.2 fun token ht => ?_) plain⟩
    exact plain token (tokensOf_mono paired.left_isPrefix ht)

end Runs

/-- **Noninterference**: in the same worlds, two publishers that differ in their secrets alone end
their runs with the same result, or with failures of one kind that have the same message; they make
the same progress, ask the same questions, and start the same commands, up to the secrets in the
input of the login to Docker Hub and in the variable for the key. If no command shows one of the
secrets, and none with the character of the mask in it came back as a token, their failures are the
same to the last and so are their lines. -/
theorem noninterference (given : p.settings.missingCredentials = [])
    (given' : (p.withSecrets secretAccessKey password).settings.missingCredentials = [])
    (earlier : List Session) (world : Session) :
    let q := p.withSecrets secretAccessKey password
    let y := p.onTurn earlier world
    let z := q.onTurn earlier world
    (p.run.run y).1.mapError Failure.outline = (q.run.run z).1.mapError Failure.outline ∧
      (p.run.run y).1.mapError Failure.message = (q.run.run z).1.mapError Failure.message ∧
      (q.run.run z).2.progress = (p.run.run y).2.progress ∧
      List.Forall₂ (Event.Alike (Command.SameBut p q)) (outward (p.trace y))
        (outward (q.trace z)) ∧
      ((∀ token ∈ tokensOf (p.run.run y).2.session.journal,
          token ∈ p.secretsWith secretAccessKey password → '*' ∉ token.toList) →
        Unseen (p.secretsWith secretAccessKey password) (p.trace y) →
        (p.run.run y).1 = (q.run.run z).1 ∧ linesOf (p.trace y) = linesOf (q.trace z)) := by
  intro q y z
  obtain ⟨progress, agree⟩ := after_twins given given' earlier
  have ends := run_alike given given' world progress
  have paired := ends.state.session.journals
  have start : (∀ token ∈ tokensOf (p.run.run y).2.session.journal,
      token ∈ p.secretsWith secretAccessKey password → '*' ∉ token.toList) →
      Agree (p.secretsWith secretAccessKey password) (secretsOf y.session.journal)
        (secretsOf z.session.journal) := fun plain =>
    agree fun token ht => plain token (tokensOf_mono paired.left_isPrefix ht)
  refine ⟨?_, ?_, ends.state.progress, paired.outward, fun plain unseen =>
    ⟨?_, paired.lines (start plain) plain unseen⟩⟩
  · exact ends.mapError fun _ _ h => h.outline
  · exact ends.mapError fun _ _ h => h.message
  · have same := ends.mapError (g := id) fun _ _ h => h.eq (start plain) plain unseen
    have whole (r : Except Failure JobResult) : r.mapError id = r := by cases r <;> rfl
    rwa [whole, whole] at same

/-- A release that fails at its last login. The token of its registry is a secret of the other
publisher. -/
theorem noninterference_usual :
    let p := usual "Zq8" "Qx9" ["1"]
    let q := p.withSecrets "Wv7" "Kj5"
    let world := Session.still [.exited 0 "" "", .exited 0 "Wv7" "", .exited 0 "" "",
      .exited 1 "" "denied"] (.response {})
    p.settings.missingCredentials = [] ∧
      q.settings.missingCredentials = [] ∧
      tokensOf (p.run.run (p.onTurn [] world)).2.session.journal = ["Wv7"] ∧
      (∀ token ∈ tokensOf (p.run.run (p.onTurn [] world)).2.session.journal,
        token ∈ p.secretsWith "Wv7" "Kj5" → '*' ∉ token.toList) ∧
      Unseen (p.secretsWith "Wv7" "Kj5") (p.trace (p.onTurn [] world)) ∧
      linesOf (p.trace (p.onTurn [] world)) = linesOf (q.trace (q.onTurn [] world)) := by
  have given : (usual "Zq8" "Qx9" ["1"]).settings.missingCredentials = [] := by decide
  have given' : ((usual "Zq8" "Qx9" ["1"]).withSecrets "Wv7" "Kj5").settings.missingCredentials =
      [] := by decide
  intro p q world
  have tokens : tokensOf (p.run.run (p.onTurn [] world)).2.session.journal = ["Wv7"] := by
    decide +kernel
  have plain : ∀ token ∈ tokensOf (p.run.run (p.onTurn [] world)).2.session.journal,
      token ∈ p.secretsWith "Wv7" "Kj5" → '*' ∉ token.toList := by
    rw [tokens]
    decide
  have unseen : Unseen (p.secretsWith "Wv7" "Kj5") (p.trace (p.onTurn [] world)) := by
    decide +kernel
  have same := noninterference (usual "Zq8" "Qx9" ["1"]) "Wv7" "Kj5" given given' [] world
  exact ⟨given, given', tokens, plain, unseen, (same.2.2.2.2 plain unseen).2⟩

/-- A key that is the character of the mask, and that comes back as a token: where it is known from
the start, it is masked before another token, and after it where it is not. -/
theorem noninterference_star :
    let p := usual "*" "Qx9" ["1", "2"]
    let q := p.withSecrets "Zq8" "Qx9"
    let world := Session.still [.exited 0 "" "", .exited 0 "ecr" "", .exited 0 "" "",
      .exited 0 "*" "", .exited 1 "" ""] (.response {})
    p.settings.missingCredentials = [] ∧ q.settings.missingCredentials = [] ∧
      Unseen (p.secretsWith "Zq8" "Qx9") (p.trace (p.onTurn [] world)) ∧
      Unseen (p.secretsWith "Zq8" "Qx9") (q.trace (q.onTurn [] world)) ∧
      linesOf (p.trace (p.onTurn [] world)) ≠ linesOf (q.trace (q.onTurn [] world)) := by
  decide +kernel

end Publisher

end ImageRelease
