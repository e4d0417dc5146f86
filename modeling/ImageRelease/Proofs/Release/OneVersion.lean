import ImageRelease.Proofs.Release.Push

/-!
One version for all of a release.

The version is read once, after the logins, and from then on it is the version of the request: what
the tools do to the properties file later does not matter. `one_version` says that the tag of the
build, its arguments, the tag that is looked up, the result and the warnings all follow from that
one text. What a run did last (`last_turn`) is where its trace and its result are read off.
-/

namespace ImageRelease

open Session Act

/-- An action that leaves a part of the progress as it is. -/
def Act.Spares {α β : Type} (part : Progress → β) (x : Act Publishing α) : Prop :=
  ∀ y, part (x.run y).2.progress = part y.progress

section

variable {α β γ : Type} {part : Progress → γ}

lemma Act.Keeps.spares {x : Act Publishing α} (hx : x.Keeps) : x.Spares part :=
  fun y => congrArg part (hx y)

lemma spares_update {f : Progress → Progress} (h : ∀ g, part (f g) = part g) :
    (update f).Spares part :=
  fun y => h y.progress

lemma Act.Spares.bind {x : Act Publishing α} {f : α → Act Publishing β} (hx : x.Spares part)
    (hf : ∀ a, (f a).Spares part) : (x >>= f).Spares part := fun y => by
  have first := hx y
  rcases run_bind_cases x f y with ⟨e, z, h, hb⟩ | ⟨a, z, h, hb⟩
  · rw [hb]
    rw [h] at first
    exact first
  · rw [h] at first
    rw [hb, hf a z]
    exact first

lemma Act.Spares.onFailure {x : Act Publishing α} {more : Failure → Act Publishing Unit}
    (hx : x.Spares part) (hm : ∀ e, (more e).Spares part) :
    (x.onFailure more).Spares part := fun y => by
  have first := hx y
  rcases h : x.run y with ⟨e | a, z⟩
  · rw [h] at first
    have last := hm e z
    have failed : (x.onFailure more).run y = _ := run_onFailure_of_error h
    rcases hl : (more e).run z with ⟨e' | u, t⟩ <;>
      rw [hl] at failed last <;>
      rw [failed] <;>
      exact last.trans first
  · rw [h] at first
    rw [run_onFailure_of_ok h]
    exact first

lemma spares_recordStage (h : ∀ g t, part (Progress.timed g t) = part g) (stage : Stage)
    (start : Float) (status : StageStatus) (detail : String) :
    (recordStage stage start status detail).Spares part := fun y => by
  rw [run_recordStage]
  split
  · exact h _ _
  · rfl

end

namespace Publisher

variable (p : Publisher)

/-! ### What a run did last -/

lemma publishImage_warnings (request : Request) :
    (p.take (.publishImage request)).Spares Progress.warnings := by
  have publishing : (p.publishImage request).Spares Progress.warnings := by
    rw [publishImage_eq]
    refine Act.Spares.bind (fun _ => rfl) fun start => ?_
    refine Act.Spares.bind (fun y => by rw [run_selecting]) fun _ => ?_
    refine Act.Spares.bind (spares_update fun _ => rfl) fun _ => ?_
    refine Act.Spares.bind (Act.Spares.onFailure (p.keeps_making request).spares fun e => ?_)
      fun _ => ?_
    · exact spares_recordStage (fun _ _ => rfl) _ _ _ _
    · exact Act.Spares.bind (spares_update fun _ => rfl) fun _ =>
        spares_recordStage (fun _ _ => rfl) _ _ _ _
  exact publishing.bind fun _ => Act.Spares.bind (spares_update fun _ => rfl) fun _ =>
    (keeps_pure _).spares

lemma keeps_closing (start : Float) (delivered : Bool) : (p.closing start delivered).Keeps := by
  unfold closing
  split
  · refine Act.Keeps.bind (fun _ => rfl) fun now => Act.Keeps.bind (fun y => ?_) fun time => ?_
    · rw [run_ofExcept]
    · refine Act.Keeps.bind (fun _ => rfl) fun _ => Act.Keeps.bind (fun _ => rfl) fun _ => ?_
      exact Act.Keeps.bind (fun _ => rfl) fun _ => keeps_pure _
  · exact Act.Keeps.bind (fun _ => rfl) fun _ => keeps_pure _

/-- What a run leaves behind, seen from the turn that it came to last. -/
structure EndsAt (x : Publishing) (t : Turn) (y : Publishing) : Prop where
  comes : p.Comes (p.opened x) t y
  moves : movesOf (p.trace x) <+: p.movesBefore x.session t ++ p.movesIn x.session t
  warnings : (p.run.run x).2.progress.warnings = ((p.take t).run y).2.progress.warnings
  result : ∀ r, (p.run.run x).1 = .ok r →
    ∃ delivered z, (p.take t).run y = (.ok (.finish delivered), z) ∧ r = p.result z.progress

variable {p}

lemma Comes.moved_with {x y z : Publishing} {t : Turn} {r : Except Failure Next}
    (h : p.Comes (p.opened x) t y) (took : (p.take t).run y = (r, z)) :
    ∃ new, x.session.Leads p.manner new z.session ∧
      movesOf new <+: p.movesBefore x.session t ++ p.movesIn x.session t := by
  obtain ⟨opening, lead₀, along₀⟩ := follows_banner (m := p.manner) p.heading x
  obtain ⟨-, before, lead₁, moves⟩ := h.moved
  obtain ⟨new, lead₂, along⟩ := p.follows_take t y
  rw [took] at lead₂ along
  refine ⟨opening ++ before ++ new, (lead₀.append lead₁).append lead₂, ?_⟩
  have interpreter : y.session.interpreter = x.session.interpreter := lead₁.interpreter
  have same : p.movesIn y.session t = p.movesIn x.session t := by
    cases t with
    | buildWheel request => simp only [movesIn, interpreter]
    | _ => rfl
  rw [movesOf_append, movesOf_append, along₀.quiet, List.nil_append, moves, ← same]
  exact (List.prefix_append_right_inj _).mpr along.moves

lemma Comes.endsAt_finished {x y z : Publishing} {t : Turn} {delivered : Bool}
    (h : p.Comes (p.opened x) t y) (took : (p.take t).run y = (.ok (.finish delivered), z))
    (hs : p.stages.run (p.opened x) = (.ok delivered, z)) : p.EndsAt x t y := by
  have run := p.run_of_stages_ok hs
  obtain ⟨new, lead, moves⟩ := h.moved_with took
  obtain ⟨last, lead', along⟩ :=
    p.follows_closing (m := p.manner) (p.opened x).session.clock delivered z
  rw [← run] at lead'
  refine ⟨h, ?_, ?_, fun r hr => ⟨delivered, z, took, ?_⟩⟩
  · rw [p.trace_eq (lead.append lead'), movesOf_append, along.quiet, List.append_nil]
    exact moves
  · rw [run, took, p.keeps_closing _ delivered z]
  · rcases hc : (p.closing (p.opened x).session.clock delivered).run z with ⟨result, u⟩
    rw [run, hc] at hr
    exact (p.closing_ok (hc.trans (congrArg (·, u) hr))).2

lemma Comes.endsAt_failed {x y z : Publishing} {t : Turn} {e : Failure}
    (h : p.Comes (p.opened x) t y) (took : (p.take t).run y = (.error e, z))
    (hs : p.stages.run (p.opened x) = (.error e, z)) : p.EndsAt x t y := by
  have run := p.run_of_stages_error hs
  obtain ⟨new, lead, moves⟩ := h.moved_with took
  refine ⟨h, ?_, by rw [run, took]; rfl, fun r hr => ?_⟩
  · have lead : x.session.Leads p.manner new (p.run.run x).2.session := by rw [run]; exact lead
    rw [p.trace_eq lead]
    exact moves
  · rw [run] at hr
    cases hr

lemma Comes.stages {x y : Publishing} {t : Turn} (h : p.Comes x t y) :
    ∃ n, t.stage.before.length + (n + 1) = Stage.all.length ∧
      p.stages.run x = (p.turns (n + 1) t).run y := by
  induction h with
  | start => exact ⟨5, rfl, by rw [stages_eq_turns]⟩
  | @next t t' y z _ took ih =>
    obtain ⟨n, count, rest⟩ := ih
    have before := before_of_take took
    have room := Stage.before_lt t'.stage
    rw [before, List.length_append, List.length_singleton] at room
    cases n with
    | zero => omega
    | succ n =>
      refine ⟨n, by rw [before, List.length_append, List.length_singleton]; omega, ?_⟩
      rw [rest, turns, run_bind_of_ok took]

lemma Comes.last {x y : Publishing} {request : Request}
    (h : p.Comes (p.opened x) (.publishImage request) y) :
    p.EndsAt x (.publishImage request) y := by
  obtain ⟨n, count, rest⟩ := h.stages
  obtain rfl : n = 0 := by
    have five : (Turn.publishImage request).stage.before.length = 5 := rfl
    have six : Stage.all.length = 6 := rfl
    omega
  rw [turns] at rest
  rcases took : (p.take (.publishImage request)).run y with ⟨e | next, z⟩
  · rw [run_bind_of_error took] at rest
    exact h.endsAt_failed took rest
  · rw [run_bind_of_ok took] at rest
    have goes := p.goes_of_take took
    generalize z.progress = g at goes
    cases goes
    exact h.endsAt_finished took rest

variable (p)

/-- **The last turn**: a run ends at one turn, and has moved no more than what comes before it and
what is moved in it. -/
theorem last_turn (x : Publishing) : ∃ t y, p.EndsAt x t y := by
  have ends := stages_end (p := p) (p.opened x)
  generalize hs : p.stages.run (p.opened x) = ended at ends
  cases ends with
  | @finished t y z delivered comes took => exact ⟨t, y, comes.endsAt_finished took hs⟩
  | @failed t y z e comes took => exact ⟨t, y, comes.endsAt_failed took hs⟩

/-! ### The version of a run -/

/-- The text of the properties file when the version is read, if there is one. -/
def textRead (s : Session) : Except Failure (Option (List Char)) :=
  Properties.text? (p.filesRead s) (p.root.join p.settings.propertiesFile)

/-- The version that a text gives; none where there is no text. -/
def versionIn (text : Option (List Char)) : Option String :=
  text.bind (Properties.version? · p.settings.versionKey)

lemma versionFrom_text {mode : Mode} {files : FileTree} {version : Option String}
    (h : p.versionFrom mode files = .ok version) :
    ∃ text, Properties.text? files (p.root.join p.settings.propertiesFile) = .ok text ∧
      p.versionIn text = version := by
  unfold versionFrom Properties.readVersion at h
  unfold Properties.text?
  generalize files.read? (p.root.join p.settings.propertiesFile) = read at h ⊢
  cases read with
  | error fault => cases h
  | ok found =>
    cases found with
    | none =>
      dsimp only at h
      split at h
      · cases h
      · cases h
        exact ⟨none, rfl, rfl⟩
    | some bytes =>
      dsimp only at h ⊢
      generalize Text.Utf8.decode bytes = decoded at h ⊢
      cases decoded with
      | error fault => cases h
      | ok text =>
        cases h
        exact ⟨some _, rfl, rfl⟩

/-- A request takes what the text gives, and a release is made of a version only. -/
lemma request_of_text {s : Session} {request : Request} (h : p.requestIn s = .ok request) :
    ∃ mode text, Mode.parse p.asked = .ok mode ∧ p.textRead s = .ok text ∧
      p.versionFrom mode (p.filesRead s) = .ok (p.versionIn text) ∧
      request = ⟨mode, (p.versionIn text).getD "", true⟩ ∧
      (mode = .release → ∃ version, p.versionIn text = some version ∧ version ≠ "") := by
  unfold requestIn at h
  cases asked : Mode.parse p.asked with
  | error r => rw [asked] at h; cases h
  | ok mode =>
    rw [asked] at h
    dsimp only [requestFrom] at h
    cases found : p.versionFrom mode (p.filesRead s) with
    | error e => rw [found] at h; cases h
    | ok version =>
      rw [found] at h
      dsimp only at h
      obtain ⟨text, read, rfl⟩ := p.versionFrom_text found
      refine ⟨mode, text, rfl, read, found, ?_⟩
      cases hv : p.versionIn text with
      | none =>
        have nightly : mode ≠ .release := fun hm => by
          rw [hv, if_pos ⟨rfl, hm⟩] at h
          cases h
        rw [hv, if_neg fun hn => nightly hn.2, Request.create_without_version nightly] at h
        cases h
        exact ⟨rfl, fun hm => absurd hm nightly⟩
      | some version =>
        obtain ⟨content, rfl, gives⟩ := Option.bind_eq_some_iff.mp hv
        rw [hv, if_neg fun hn => (nomatch hn.1), Request.create_of_version? gives] at h
        cases h
        exact ⟨rfl, fun _ => ⟨version, rfl, (Properties.version?_solid gives).1⟩⟩

/-! ### What a run does with it -/

/-- A run comes to its image. -/
def ReachesImage (x : Publishing) : Prop :=
  ∃ request y, p.Comes (p.opened x) (.publishImage request) y

/-- Everything that a run tells others of its version is the same. -/
structure Carries (x : Publishing) (tag : String) (arguments : List String) (version : String)
    (warnings : List String) : Prop where
  commands : ∀ c fate, .command c fate ∈ p.trace x → .call c.argv c.cwd ∈ p.loginMoves ∨
    .call c.argv c.cwd = p.wheelMove x.session.interpreter ∨ c.IsBuild
  builds : ∀ c fate, .command c fate ∈ p.trace x → c.IsBuild → ∃ file context, c.argv =
    ["docker", "buildx", "build", "--file", file, "--tag", tag] ++ arguments ++ ["--push", context]
  lookups : ∀ url reply, .lookup url reply ∈ p.trace x → ∃ repository reference,
    tag = repository ++ ":" ++ reference ∧ ':' ∉ reference.toList ∧
      url = p.tagAddress repository reference
  result : ∀ r, (p.run.run x).1 = .ok r → r.version = version ∧ r.imageTag = some tag ∧
    ∃ c fate, .command c fate ∈ p.trace x ∧ c.IsBuild
  warnings : (p.run.run x).2.progress.warnings = x.progress.warnings ++ warnings

variable {p}

lemma EndsAt.publishes {x y : Publishing} {t : Turn} (ends : p.EndsAt x t y) {move : Move}
    (h : move ∈ movesOf (p.trace x))
    (late : (∃ url, move = .lookup url) ∨
      ∃ argv cwd, move = .call argv cwd ∧ ["docker", "buildx", "build"] <+: argv) :
    ∃ request, t = .publishImage request := by
  have early : move ∉ p.loginMoves ∧ ∀ interpreter, move ≠ p.wheelMove interpreter := by
    rcases late with ⟨url, rfl⟩ | ⟨argv, cwd, rfl, build⟩
    · exact ⟨p.lookup_not_mem_loginMoves url, fun _ => nofun⟩
    · exact ⟨fun hl => p.not_build_of_mem_loginMoves hl build,
        fun _ hw => p.not_build_of_eq_wheelMove hw build⟩
  have moved := ends.moves.subset h
  cases t with
  | publishImage request => exact ⟨request, rfl⟩
  | authorize => cases moved
  | validate => cases moved
  | credentials mode =>
    simp only [movesBefore, movesIn, List.nil_append] at moved
    split at moved
    · exact absurd moved early.1
    · cases moved
  | resolveVersion mode =>
    rw [movesBefore, movesIn, List.append_nil] at moved
    exact absurd moved early.1
  | buildWheel request =>
    rcases List.mem_append.mp moved with hl | hw
    · exact absurd hl early.1
    · exact absurd (List.mem_singleton.mp hw) (early.2 _)

lemma EndsAt.built {x y : Publishing} {request : Request} {r : JobResult}
    (ends : p.EndsAt x (.publishImage request) y) (h : (p.run.run x).1 = .ok r) :
    ∃ c fate, .command c fate ∈ p.trace x ∧ c.IsBuild := by
  obtain ⟨found, -⟩ := ends.comes.moved
  have asked : p.requestIn x.session = .ok request := found
  obtain ⟨delivered, z, took, rfl⟩ := ends.result r h
  have goes := p.goes_of_take took
  generalize z.progress = g at goes h
  cases goes
  rcases p.run_ok (Prod.ext h rfl) with ⟨-, admitted, -⟩ | ⟨skipped, -⟩
  · obtain ⟨new, lead, along⟩ := p.follows_run x
    have moved : p.buildMove request ∈ movesOf (p.trace x) := by
      rw [p.trace_eq lead, along.whole (by rw [h]; rfl), plan, latePlan, if_pos admitted, asked]
      simp
    obtain ⟨event, he, hm⟩ := List.mem_filterMap.mp moved
    cases event with
    | command c fate =>
      refine ⟨c, fate, he, ?_⟩
      rw [Command.IsBuild, (Move.call.inj (Option.some.inj hm)).1]
      exact ⟨_, rfl⟩
    | lookup url reply => cases hm
    | logged level text => cases hm
    | masked secret => cases hm
  · cases skipped

lemma EndsAt.carries {x y : Publishing} {request : Request} {file context : String}
    {arguments : List String} (ends : p.EndsAt x (.publishImage request) y)
    (command : p.imageCommand request =
      ["docker", "buildx", "build", "--file", file, "--tag", (p.selection request).tag] ++
        arguments ++ ["--push", context]) :
    p.Carries x (p.selection request).tag arguments request.version (p.warnedIn x.session) := by
  have passed := ends.comes.passed
  have late : ∀ move ∈ movesOf (p.trace x), move ∉ p.loginMoves →
      move ≠ p.wheelMove x.session.interpreter →
      move ∈ p.lookupMoves request ∨ move = p.buildMove request := by
    intro move moved login wheel
    have planned := ends.moves.subset moved
    simpa [movesBefore, movesIn, login, wheel] using planned
  refine ⟨fun c fate hc => ?_, fun c fate hc build => ?_, fun url reply hl => ?_, fun r hr => ?_,
    ?_⟩
  · have moved : .call c.argv c.cwd ∈ movesOf (p.trace x) := List.mem_filterMap.mpr ⟨_, hc, rfl⟩
    refine or_iff_not_imp_left.mpr fun login => or_iff_not_imp_left.mpr fun wheel => ?_
    rcases late _ moved login wheel with asked | built
    · unfold lookupMoves at asked
      split at asked
      · cases List.mem_singleton.mp asked
      · cases asked
    · rw [Command.IsBuild, (Move.call.inj built).1]
      exact ⟨_, rfl⟩
  · have moved : .call c.argv c.cwd ∈ movesOf (p.trace x) := List.mem_filterMap.mpr ⟨_, hc, rfl⟩
    rcases late _ moved (fun hl => p.not_build_of_mem_loginMoves hl build)
      (fun hw => p.not_build_of_eq_wheelMove hw build) with asked | built
    · unfold lookupMoves at asked
      split at asked
      · cases List.mem_singleton.mp asked
      · cases asked
    · rw [p.buildMove_eq] at built
      exact ⟨file, context, (Move.call.inj built).1.trans command⟩
  · have moved : .lookup url ∈ movesOf (p.trace x) := List.mem_filterMap.mpr ⟨_, hl, rfl⟩
    have wheel : Move.lookup url ≠ p.wheelMove x.session.interpreter := fun h => by cases h
    rcases late _ moved (p.lookup_not_mem_loginMoves url) wheel with asked | built
    · obtain ⟨reference, href, htag, hcolon⟩ := Selection.tag_eq (p.colon_mem_selection request)
      refine ⟨_, reference, htag, hcolon, ?_⟩
      unfold lookupMoves at asked
      split at asked
      · rw [Move.lookup.inj (List.mem_singleton.mp asked), p.lookupUrl_eq href]
        rfl
      · cases asked
    · cases built
  · have built := ends.built hr
    obtain ⟨delivered, z, took, rfl⟩ := ends.result r hr
    obtain ⟨-, made⟩ := passed.holds
    have goes := p.goes_of_take took
    generalize z.progress = g at goes
    cases goes
    refine ⟨?_, rfl, built⟩
    simp [Publisher.result, Progress.timed, made]
  · rw [ends.warnings, p.publishImage_warnings request y]
    exact passed.warnings

variable (p)

lemma imageCommand_release (version : String) :
    p.imageCommand ⟨.release, version, true⟩ =
      ["docker", "buildx", "build", "--file", (p.root.join p.settings.image.dockerfile).text,
        "--tag", (p.selection ⟨.release, version, true⟩).tag] ++
        ["--build-arg", "DJL_VERSION=" ++ version] ++
        ["--push", (p.root.join p.settings.image.context).text] := by
  simp [imageCommand, Request.buildArgs, selection, Request.select, versionArgument]

lemma imageCommand_nightly (version : String) :
    p.imageCommand ⟨.nightly, version, true⟩ =
      ["docker", "buildx", "build", "--file", (p.root.join p.settings.image.dockerfile).text,
        "--tag", (p.selection ⟨.nightly, version, true⟩).tag] ++ [] ++
        ["--push", (p.root.join p.settings.image.context).text] := by
  simp [imageCommand, Request.buildArgs, selection, Request.select]

/-- **One version everywhere**: whatever runs came before, the runs that come to the image are those
that build one, ask about a tag, or return without being skipped. Such a run has read one text, with
the files as they are after the logins, and every command of it but the logins and the build of the
wheels is a build of an image; if it returns there is one. A release has a version there that is not
empty; it builds one tag and with one argument, it asks about that tag only, and its result tells of
that version and that tag. A nightly run has its one tag and no argument, and it warns exactly if the
text gives no version. A version that a text gives is never refused and never changed. -/
theorem one_version (earlier : List Session) (world : Session) :
    ((∀ c fate, .command c fate ∈ p.trace (p.onTurn earlier world) → c.IsBuild →
          p.ReachesImage (p.onTurn earlier world)) ∧
        (∀ url reply, .lookup url reply ∈ p.trace (p.onTurn earlier world) →
          p.ReachesImage (p.onTurn earlier world)) ∧
        ∀ r, (p.run.run (p.onTurn earlier world)).1 = .ok r → r.state ≠ .skipped →
          p.ReachesImage (p.onTurn earlier world)) ∧
      (∀ mode y, p.Comes (p.opened (p.onTurn earlier world)) (.resolveVersion mode) y →
        y.session.files = p.filesRead world) ∧
      (p.ReachesImage (p.onTurn earlier world) →
        ∃ mode text, Mode.parse p.asked = .ok mode ∧ p.textRead world = .ok text ∧
          (mode = .release → ∃ version, p.versionIn text = some version ∧ version ≠ "" ∧
            p.Carries (p.onTurn earlier world)
              (p.settings.image.image ++ ":" ++ (version ++ "-cpu"))
              ["--build-arg", "DJL_VERSION=" ++ version] version []) ∧
          (mode = .nightly →
            p.Carries (p.onTurn earlier world) (p.settings.image.image ++ ":" ++ "cpu-nightly") []
              ((p.versionIn text).getD "")
              (if p.versionIn text = none then [p.versionWarning] else []))) ∧
      (∀ mode text key version, Properties.version? text key = some version →
        Request.create (.mode mode) (some version) = .ok ⟨mode, version, true⟩) ∧
      Request.create (.mode .nightly) none = .ok ⟨.nightly, "", true⟩ := by
  generalize hx : p.onTurn earlier world = x
  have read : p.filesRead x.session = p.filesRead world := by rw [← hx]; rfl
  have reaches : ∀ request, (∃ y, p.EndsAt x (.publishImage request) y) → p.ReachesImage x :=
    fun request ⟨y, ends⟩ => ⟨request, y, ends.comes⟩
  obtain ⟨t, y, ends⟩ := p.last_turn x
  refine ⟨⟨fun c fate hc build => ?_, fun url reply hl => ?_, fun r hr state => ?_⟩, ?_, ?_,
    fun mode text key version gives => Request.create_of_version? gives mode, rfl⟩
  · obtain ⟨request, rfl⟩ := ends.publishes (List.mem_filterMap.mpr ⟨_, hc, rfl⟩)
      (.inr ⟨_, _, rfl, build⟩)
    exact reaches request ⟨y, ends⟩
  · obtain ⟨request, rfl⟩ := ends.publishes (List.mem_filterMap.mpr ⟨_, hl, rfl⟩) (.inl ⟨url, rfl⟩)
    exact reaches request ⟨y, ends⟩
  · obtain ⟨delivered, z, took, rfl⟩ := ends.result r hr
    have goes := p.goes_of_take took
    generalize z.progress = g at goes state
    cases goes with
    | skipped => exact absurd rfl state
    | published request time => exact reaches request ⟨y, ends⟩
  · intro mode u comes
    obtain ⟨-, new, lead, moves⟩ := comes.moved
    rw [p.files_of_logins lead moves, ← read]
    rfl
  · rintro ⟨request, u, comes⟩
    obtain ⟨found, -⟩ := comes.moved
    have found : p.requestIn x.session = .ok request := found
    obtain ⟨mode, text, asked, text_read, version, rfl, needs⟩ := p.request_of_text found
    have warned : p.warnedIn x.session =
        if p.versionIn text = none then [p.versionWarning] else [] := by
      rw [warnedIn, asked]
      dsimp only
      rw [version]
      cases p.versionIn text <;> rfl
    have text_read : p.textRead world = .ok text := by
      rw [textRead, ← read]
      exact text_read
    refine ⟨mode, text, asked, text_read, ?_, ?_⟩
    · rintro rfl
      obtain ⟨version, found, some⟩ := needs rfl
      have carries := comes.last.carries (p.imageCommand_release _)
      rw [warned, found] at carries
      exact ⟨version, found, some, carries⟩
    · rintro rfl
      have carries := comes.last.carries (p.imageCommand_nightly _)
      rw [warned] at carries
      exact carries

/-- A release of version 0.25.0 carries it everywhere. -/
theorem one_version_usual :
    (usual "Zq8" "Qx9" ["1"]).ReachesImage
        ((usual "Zq8" "Qx9" ["1"]).onTurn [] (.still [] (.response {}))) ∧
      (usual "Zq8" "Qx9" ["1"]).Carries
        ((usual "Zq8" "Qx9" ["1"]).onTurn [] (.still [] (.response {})))
        "deepjavalibrary/djl-spark:0.25.0-cpu" ["--build-arg", "DJL_VERSION=0.25.0"] "0.25.0"
        [] := by
  obtain ⟨⟨-, -, returns⟩, -, carries, -⟩ :=
    one_version (usual "Zq8" "Qx9" ["1"]) [] (.still [] (.response {}))
  have allowed : repositoryAllowed (usual "Zq8" "Qx9" ["1"]).repository
    (usual "Zq8" "Qx9" ["1"]).settings.allowedRepository = true := by decide
  have reached : (usual "Zq8" "Qx9" ["1"]).ReachesImage
      ((usual "Zq8" "Qx9" ["1"]).onTurn [] (.still [] (.response {}))) := by
    rcases h : (usual "Zq8" "Qx9" ["1"]).run.run
      ((usual "Zq8" "Qx9" ["1"]).onTurn [] (.still [] (.response {}))) with ⟨e | r, z⟩
    · have ends : ((usual "Zq8" "Qx9" ["1"]).run.run
        ((usual "Zq8" "Qx9" ["1"]).onTurn [] (.still [] (.response {})))).1.isOk = true := by
          decide +kernel
      rw [h] at ends
      cases ends
    · refine returns r (by rw [h]) fun skipped => ?_
      rcases run_ok _ h with ⟨delivered, -⟩ | ⟨-, barred⟩
      · cases delivered.symm.trans skipped
      · cases allowed.symm.trans barred
  obtain ⟨mode, text, asked, read, release, -⟩ := carries reached
  cases asked
  obtain ⟨version, found, -, carried⟩ := release rfl
  have known : ((usual "Zq8" "Qx9" ["1"]).textRead (.still [] (.response {}))).toOption.bind
      (usual "Zq8" "Qx9" ["1"]).versionIn = some "0.25.0" := by decide +kernel
  rw [read] at known
  obtain rfl : version = "0.25.0" := Option.some.inj (found.symm.trans known)
  exact ⟨reached, carried⟩

end Publisher

end ImageRelease
