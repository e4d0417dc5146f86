import Mathlib.Data.List.DropRight
import ImageRelease.Proofs.Release.FailFast
import ImageRelease.Proofs.Release.Timings

/-!
The guard of released tags.

A release that must not write over another one asks the registry about its own tag, after all tools
before the image have succeeded, and builds the image only where the registry answers that there is
no such tag. Every other answer stops the run, and `release_guard` says with which failure. Runs
that have nothing to guard ask nothing.
-/

namespace ImageRelease

open Session Act

/-- A command that builds an image. -/
def Command.IsBuild (c : Command) : Prop :=
  ["docker", "buildx", "build"] <+: c.argv

/-- The value of a flag, where flags and values take turns. -/
def flagValue? (flag : String) : List String → Option String
  | name :: value :: rest => if name = flag then some value else flagValue? flag rest
  | _ => none

lemma Hub.base_ofUrl (url : String) :
    (∃ n, url.toList = (Hub.ofUrl url).base.toList ++ List.replicate n '/') ∧
      (Hub.ofUrl url).base.toList.getLast? ≠ some '/' := by
  have base : (Hub.ofUrl url).base.toList = url.toList.rdropWhile (· == '/') := by
    simp [Hub.ofUrl, List.rdropWhile]
  rw [base]
  constructor
  · refine ⟨(url.toList.rtakeWhile (· == '/')).length, ?_⟩
    have slashes : url.toList.rtakeWhile (· == '/') =
        List.replicate (url.toList.rtakeWhile (· == '/')).length '/' :=
      List.eq_replicate_of_mem fun c hc => by simpa using List.mem_rtakeWhile_imp hc
    rw [← slashes, List.rdropWhile_append_rtakeWhile]
  · intro h
    have ne : url.toList.rdropWhile (· == '/') ≠ [] := fun hn => by rw [hn] at h; cases h
    rw [← List.getLast_eq_iff_getLast?_eq_some ne] at h
    exact List.rdropWhile_last_not _ _ ne (by rw [h]; rfl)

namespace Along

variable {front : List Move} {move : Move} {old new : List Event} {e : Event} {ok : Bool}

lemma reached (h : Along (front ++ [move]) (old ++ e :: new) ok) {last : Move}
    (he : e.move? = some last) (only : last ∉ front) : movesOf old = front ∧ last = move := by
  obtain ⟨rest, hr⟩ := h.moves
  have moves : movesOf (old ++ e :: new) = movesOf old ++ last :: movesOf new := by
    rw [movesOf_append, movesOf, movesOf, List.filterMap_cons_some he]
    rfl
  rw [moves, List.append_assoc, List.cons_append] at hr
  rcases List.append_eq_append_iff.mp hr with ⟨between, hf, hl⟩ | ⟨between, ho, hl⟩
  · rcases between with _ | ⟨first, between⟩
    · exact ⟨by rw [hf, List.append_nil], (List.cons.inj hl).1⟩
    · refine absurd ?_ only
      rw [hf, (List.cons.inj hl).1]
      exact List.mem_append_right _ List.mem_cons_self
  · rcases between with _ | ⟨first, between⟩
    · exact ⟨by rw [ho, List.append_nil], (List.cons.inj hl).1.symm⟩
    · have := (List.cons.inj hl).2
      simp at this

lemma earlier_succeeded {plan : List Move} (h : Along plan (old ++ e :: new) ok)
    (he : e.move? ≠ none) : ∀ f ∈ old, ¬f.Failed := fun f hf failed =>
  he ((List.pairwise_append.mp h.last).2.2 f hf e List.mem_cons_self failed)

end Along

/-- Where the moves end with a question, so do the events, up to quiet ones. -/
lemma events_of_lookup {front : List Move} {url : String} {new : List Event}
    (h : movesOf new = front ++ [.lookup url]) :
    ∃ first reply rest, new = first ++ .lookup url reply :: rest ∧ movesOf first = front ∧
      movesOf rest = [] := by
  obtain ⟨first, rest, rfl, hf, hr⟩ := List.filterMap_eq_append_iff.mp h
  obtain ⟨quiet, e, last, rfl, hq, he, hl⟩ := List.filterMap_eq_cons_iff.mp hr
  cases e with
  | lookup url' reply =>
    cases he
    refine ⟨first ++ quiet, reply, last, by simp, ?_, hl⟩
    rw [movesOf_append, movesOf_eq_nil.mpr hq, List.append_nil]
    exact hf
  | command c fate => cases he
  | logged level text => cases he
  | masked secret => cases he

namespace Publisher

variable (p : Publisher)

/-- Where the registry does not answer that the tag is free, the last stage fails with what came of
the question. -/
lemma publishImage_refused (real : p.dryRun = false) {request : Request} {y : Publishing}
    {e : Failure} (timely : y.session.Timely) (guards : p.Guards request)
    (unicode : Text.IsUnicode (p.selection request).tag y.session.files.places)
    (h : p.checked (p.selection request) y.session.reply = .error e) :
    ∃ z, (p.publishImage request).run y = (.error e, z) ∧
      z.progress.selection = some (p.selection request) := by
  obtain ⟨new, lead, -, same⟩ :=
    p.checkUnreleased_leads real (p.colon_mem_selection request) y.session
  rcases hc : (p.checkUnreleased (p.selection request)).run y.session with ⟨result, s⟩
  rw [hc, h] at same
  rw [hc] at lead
  cases same
  let z : Publishing := ⟨y.session, { y.progress with selection := some (p.selection request) }⟩
  have checking : (inSession (p.checkUnreleased (p.selection request))).run z =
      (.error e, ⟨s, z.progress⟩) := by
    rw [inSession, run_within, hc]
  have refused : (p.making request).run z = (.error e, ⟨s, z.progress⟩) := by
    rw [making, if_pos ((p.guards_iff request).mpr guards)]
    exact run_bind_of_error checking
  obtain ⟨time, recorded⟩ := recordStage_sure (y := ⟨s, z.progress⟩) timely (mayShow_clock _)
    (lead.mayShow (mayShow_clock _)) .publishImage .failed e.message
  have failed : (recordingFailure .publishImage y.session.clock (p.making request)).run z = _ :=
    run_onFailure_of_error refused
  rw [recorded] at failed
  have selected : (p.selecting request).run y = (.ok (p.selection request), y) := by
    rw [run_selecting, p.selection_ok unicode]
  have selecting : (update fun g => { g with selection := some (p.selection request) }).run y =
      (.ok (), z) := rfl
  rw [publishImage_eq, run_bind_of_ok (x := now) rfl, run_bind_of_ok selected,
    run_bind_of_ok selecting]
  exact ⟨_, run_bind_of_error failed, rfl⟩

lemma mode_of_requestIn {s : Session} {request : Request} {mode : Mode}
    (hm : Mode.parse p.asked = .ok mode) (h : p.requestIn s = .ok request) :
    request.mode = mode := by
  obtain ⟨mode', version, asked, made⟩ := p.create_of_requestIn h
  obtain rfl : mode = mode' := Except.ok.inj (hm.symm.trans asked)
  unfold Request.create at made
  dsimp only [Mode.parse] at made
  split at made
  · cases made
  · cases made
    rfl

lemma not_build_of_mem_loginMoves {argv : List String} {cwd : Option String}
    (h : .call argv cwd ∈ p.loginMoves) : ¬["docker", "buildx", "build"] <+: argv := by
  intro build
  simp only [loginMoves, Ecr.movesFor, List.mem_cons, List.mem_append, List.mem_flatMap,
    List.not_mem_nil, or_false, Move.call.injEq] at h
  rcases h with ⟨rfl, -⟩ | ⟨_, -, ⟨rfl, -⟩ | ⟨rfl, -⟩⟩ | ⟨rfl, -⟩ <;>
    simp [Docker.setupCommand, Docker.loginCommand, Ecr.tokenCommand, Ecr.loginCommand, docker,
      List.cons_prefix_cons] at build

lemma not_build_of_eq_wheelMove {interpreter : String} {argv : List String} {cwd : Option String}
    (h : .call argv cwd = p.wheelMove interpreter) : ¬["docker", "buildx", "build"] <+: argv := by
  cases h
  simp [WheelBuilder.command, List.cons_prefix_cons]

lemma not_build_of_mem_earlyPlan {s : Session} {argv : List String} {cwd : Option String}
    (h : .call argv cwd ∈ p.earlyPlan s) : ¬["docker", "buildx", "build"] <+: argv := by
  unfold earlyPlan at h
  split at h
  · rcases List.mem_append.mp h with hl | hw
    · exact p.not_build_of_mem_loginMoves hl
    · split at hw
      · exact p.not_build_of_eq_wheelMove (List.mem_singleton.mp hw)
      · cases hw
  · cases h

lemma lookup_not_mem_earlyPlan (s : Session) (url : String) : .lookup url ∉ p.earlyPlan s := by
  unfold earlyPlan
  split
  · rw [List.mem_append, not_or]
    refine ⟨p.lookup_not_mem_loginMoves url, ?_⟩
    split <;> simp [wheelMove]
  · exact List.not_mem_nil

lemma request_of_build {s : Session} {argv : List String} {cwd : Option String}
    (h : .call argv cwd ∈ p.plan s) (build : ["docker", "buildx", "build"] <+: argv) :
    ∃ request, p.requestIn s = .ok request ∧
      p.plan s = p.earlyPlan s ++ p.lookupMoves request ++ [p.buildMove request] := by
  rcases List.mem_append.mp h with he | hl
  · exact absurd build (p.not_build_of_mem_earlyPlan he)
  · unfold plan
    unfold latePlan at hl ⊢
    split at hl
    · case isTrue admitted =>
      rw [if_pos admitted]
      split at hl
      · case h_1 request hr => exact ⟨request, hr, (List.append_assoc _ _ _).symm⟩
      · cases hl
    · cases hl

lemma flagValue?_buildCommand (spec : BuildSpec) (tag : String) (h : spec.tags = [tag]) :
    flagValue? "--tag" ((p.docker.buildCommand spec).drop 3) = some tag := by
  simp [Docker.buildCommand, flagValue?, h]

/-- Where a hub tells about the tag of a repository. -/
def tagAddress (repository reference : String) : String :=
  Hub.sent (p.hub.base ++ "/v2/repositories/" ++ repository ++ "/tags/" ++ reference)

/-- The events before a build that was guarded: all calls succeeded, and after the last of them the
registry answered that there is no such tag. -/
def Guarded (repository reference : String) (before : List Event) : Prop :=
  ∃ first r rest,
    before = first ++ .lookup (p.tagAddress repository reference) (.response r) :: rest ∧
    r.status = 404 ∧ (∀ call ∈ callsOf first, call.2.Succeeded) ∧ callsOf rest = []

lemma build_guarded (real : p.dryRun = false) (release : Mode.parse p.asked = .ok .release)
    (kept : p.allowOverwrite = false) {s : Session} {before after : List Event} {ok : Bool}
    {c : Command} {e : Ending}
    (along : Along (p.plan s) (before ++ .command c (.started e) :: after) ok) (build : c.IsBuild) :
    ∃ tag repository reference, flagValue? "--tag" (c.argv.drop 3) = some tag ∧
      tag = repository ++ ":" ++ reference ∧ ':' ∉ reference.toList ∧
      p.Guarded repository reference before := by
  have moved : .call c.argv c.cwd ∈ movesOf (before ++ .command c (.started e) :: after) :=
    List.mem_filterMap.mpr ⟨_, List.mem_append_right _ List.mem_cons_self, rfl⟩
  obtain ⟨request, hr, hplan⟩ := p.request_of_build (along.moves.subset moved) build
  have guards : p.Guards request := ⟨p.mode_of_requestIn release hr, kept⟩
  have asking : p.lookupMoves request = [.lookup (Hub.sent (p.lookupUrl (p.selection request)))] :=
    if_pos ⟨guards, real⟩
  rw [hplan, asking] at along
  have only : .call c.argv c.cwd ∉
      p.earlyPlan s ++ [.lookup (Hub.sent (p.lookupUrl (p.selection request)))] := by
    rw [List.mem_append, not_or]
    exact ⟨fun he => p.not_build_of_mem_earlyPlan he build, by simp⟩
  obtain ⟨hb, hl⟩ := along.reached (e := .command c (.started e)) rfl only
  obtain ⟨first, reply, rest, rfl, -, hq⟩ := events_of_lookup hb
  have earlier := along.earlier_succeeded (e := .command c (.started e)) (Option.some_ne_none _)
  obtain ⟨reference, href, htag, hcolon⟩ := Selection.tag_eq (p.colon_mem_selection request)
  refine ⟨_, _, reference, ?_, htag, hcolon, first, ?_⟩
  · rw [(Move.call.inj hl).1]
    exact p.flagValue?_buildCommand _ _ rfl
  · have free : reply.Free :=
      not_not.mp (earlier _ (List.mem_append_right _ List.mem_cons_self))
    cases reply with
    | response r =>
      refine ⟨r, rest, ?_, free, fun call hc => ?_, callsOf_of_quiet hq⟩
      · rw [p.lookupUrl_eq href]
        rfl
      · obtain ⟨event, he, hce⟩ := List.mem_filterMap.mp hc
        exact not_not.mp ((Event.failed_iff hce).not.mp (earlier _ (List.mem_append_left _ he)))
    | noConnection message => exact free.elim
    | fault fault message => exact free.elim

lemma lookup_not_mem_plan {s : Session}
    (h : p.dryRun = true ∨ Mode.parse p.asked ≠ .ok .release ∨ p.allowOverwrite = true)
    (url : String) : .lookup url ∉ p.plan s := by
  rw [plan, List.mem_append, not_or]
  refine ⟨p.lookup_not_mem_earlyPlan s url, ?_⟩
  unfold latePlan
  split
  · case isTrue admitted =>
    split
    · case h_1 request hr =>
      have open' : ¬(p.Guards request ∧ p.dryRun = false) := by
        rintro ⟨⟨release, kept⟩, real⟩
        rcases h with dry | other | overwrite
        · exact Bool.noConfusion (real.symm.trans dry)
        · cases hm : Mode.parse p.asked with
          | error r => simpa [hm, Except.isOk, Except.toBool] using admitted.2.1
          | ok mode =>
            rw [hm] at other
            exact other (congrArg _ ((p.mode_of_requestIn hm hr).symm.trans release))
        · exact Bool.noConfusion (kept.symm.trans overwrite)
      rw [lookupMoves, if_neg open']
      simp [buildMove]
    · exact List.not_mem_nil
  · exact List.not_mem_nil

/-- What a run that came to the image and guards its tag ends with, where the registry does not
answer that the tag is free. -/
lemma run_refused (real : p.dryRun = false) (release : Mode.parse p.asked = .ok .release)
    (kept : p.allowOverwrite = false) {x : Publishing} (timely : x.session.Timely)
    (reached : ∃ t ∈ (p.run.run x).2.progress.timings.drop x.progress.timings.length,
      t.stage = .publishImage) :
    ∃ request, p.requestIn x.session = .ok request ∧
      ∀ e, p.checked (p.selection request) x.session.reply = .error e →
        (p.run.run x).1 = .error e := by
  obtain ⟨request, z, he, unicode⟩ := p.early_of_timing reached
  obtain ⟨-, hr⟩ := p.early_some he
  refine ⟨request, hr, fun e h => ?_⟩
  obtain ⟨new, lead, -⟩ := (p.follows_early (p.opened x)).ok he
  have reply : z.session.reply = x.session.reply := lead.reply
  obtain ⟨w, hw, -⟩ := p.publishImage_refused real (lead.timely (p.timely_opened timely))
    ⟨p.mode_of_requestIn release hr, kept⟩ unicode (by rw [reply]; exact h)
  have stopped : p.stages.run (p.opened x) = (.error e, w) := by
    rw [stages_eq, run_bind_of_ok he]
    exact run_bind_of_error hw
  rw [p.run_of_stages_error stopped]

/-- How a run ends by what came of its lookup, for every answer but that the tag is free. -/
structure EndsBy (url tag : String) (reply : Reply) (result : Except Failure JobResult) : Prop where
  lookup_failed : ∀ e, Hub.answer url reply = .error e → result = .error e
  not_connected : ∀ a message, Hub.target url = .ok a → reply = .noConnection message →
    result = .error (.rejected (.registryQuery url 0 message))
  tag_exists : ∀ r content, Hub.answer url reply = .ok (r, content) → r.status = 200 →
    result = .error (.rejected (.releaseTagExists tag))
  other_status : ∀ r content body, Hub.answer url reply = .ok (r, content) → r.status ≠ 200 →
    r.status ≠ 404 → r.text content = .ok body →
    result = .error (.rejected (.registryQuery url r.status body))
  not_read : ∀ r content fault, Hub.answer url reply = .ok (r, content) → r.status ≠ 200 →
    r.status ≠ 404 → r.text content = .error fault → result = .error (.notRead fault)

lemma endsBy_of_checked {selection : Selection} {reply : Reply}
    {result : Except Failure JobResult}
    (h : ∀ e, p.checked selection reply = .error e → result = .error e) :
    EndsBy (p.lookupUrl selection) selection.tag reply result := by
  have fails {e : Failure} (found : Hub.found (p.lookupUrl selection) reply = .error e) :
      result = .error e := h e (by unfold checked; rw [found])
  have taken (found : Hub.found (p.lookupUrl selection) reply = .ok true) :
      result = .error (.rejected (.releaseTagExists selection.tag)) :=
      h _ (by unfold checked; rw [found])
  exact
    { lookup_failed := fun e ha => fails (by simp [Hub.found, ha])
      not_connected := fun a message ht hr =>
        fails (by simp [Hub.found, hr, Hub.answer_noConnection ht])
      tag_exists := fun r content ha h₁ => taken (by simp [Hub.found, Hub.verdict, ha, h₁])
      other_status := fun r content body ha h₁ h₂ hb =>
        fails (by simp [Hub.found, Hub.verdict, ha, h₁, h₂, hb])
      not_read := fun r content fault ha h₁ h₂ hf =>
        fails (by simp [Hub.found, Hub.verdict, ha, h₁, h₂, hf]) }

lemma build_of_ok (real : p.dryRun = false) {x : Publishing} {result : JobResult}
    (h : (p.run.run x).1 = .ok result) :
    result.state = .skipped ∨ ∃ call ∈ callsOf (p.trace x), call.1.IsBuild := by
  rcases hx : p.run.run x with ⟨_, z⟩
  rw [hx] at h
  cases h
  rcases p.run_ok hx with ⟨delivered, admitted, request, hr⟩ | ⟨skipped, -⟩
  · obtain ⟨all, -⟩ := p.calls_of_delivered real hr (congrArg Prod.fst hx) delivered
    have last : (p.imageCommand request, none) ∈ (callsOf (p.trace x)).map (·.1.shape) := by
      rw [all]
      exact List.mem_append_right _ (by simp)
    obtain ⟨call, hc, hs⟩ := List.mem_map.mp last
    refine .inr ⟨call, hc, ?_⟩
    rw [Command.IsBuild, (Prod.mk.inj hs).1]
    exact ⟨_, rfl⟩
  · exact .inl skipped

/-- **The guard of released tags**: a release that must not write over another one starts a build
only after all its earlier calls succeeded and the registry then answered 404 for the very tag that
is built. A run that builds nothing fails or was skipped. A run that came to the image ends by what
its lookup brought: a lookup that fails is its failure, a status of 200 means that the tag exists,
and any other status but 404 is a failed query with the body, if the body can be read at all. Runs
that have nothing to guard make no lookup. -/
theorem release_guard (x : Publishing) :
    ((∃ n, p.settings.dockerHub.url.toList = p.hub.base.toList ++ List.replicate n '/') ∧
        p.hub.base.toList.getLast? ≠ some '/') ∧
      (p.dryRun = false → Mode.parse p.asked = .ok .release → p.allowOverwrite = false →
        (∀ before c e after, p.trace x = before ++ .command c (.started e) :: after → c.IsBuild →
          ∃ tag repository reference, flagValue? "--tag" (c.argv.drop 3) = some tag ∧
            tag = repository ++ ":" ++ reference ∧ ':' ∉ reference.toList ∧
            p.Guarded repository reference before) ∧
          (∀ result, (p.run.run x).1 = .ok result →
            result.state = .skipped ∨ ∃ call ∈ callsOf (p.trace x), call.1.IsBuild) ∧
          (x.session.Timely →
            (∃ t ∈ (p.run.run x).2.progress.timings.drop x.progress.timings.length,
              t.stage = .publishImage) →
            ∃ request repository reference, p.requestIn x.session = .ok request ∧
              (p.selection request).tag = repository ++ ":" ++ reference ∧
              ':' ∉ reference.toList ∧
              EndsBy (p.hub.base ++ "/v2/repositories/" ++ repository ++ "/tags/" ++ reference)
                (p.selection request).tag x.session.reply (p.run.run x).1)) ∧
      (p.dryRun = true ∨ Mode.parse p.asked ≠ .ok .release ∨ p.allowOverwrite = true →
        ∀ event ∈ p.trace x, event.lookup? = none) := by
  obtain ⟨new, lead, along⟩ := p.follows_run x
  rw [p.trace_eq lead]
  refine ⟨Hub.base_ofUrl _, fun real release kept => ⟨?_, ?_, ?_⟩, ?_⟩
  · rintro before c e after rfl build
    exact p.build_guarded real release kept along build
  · intro result h
    rw [← p.trace_eq lead]
    exact p.build_of_ok real h
  · intro timely reached
    obtain ⟨request, hr, ends⟩ := p.run_refused real release kept timely reached
    obtain ⟨reference, href, htag, hcolon⟩ := Selection.tag_eq (p.colon_mem_selection request)
    refine ⟨request, _, reference, hr, htag, hcolon, ?_⟩
    have settled := p.endsBy_of_checked ends
    rw [p.lookupUrl_eq href] at settled
    exact settled
  · intro free event he
    cases event with
    | lookup url reply =>
      have moved : .lookup url ∈ movesOf new := List.mem_filterMap.mpr ⟨_, he, rfl⟩
      exact absurd (along.moves.subset moved) (p.lookup_not_mem_plan free url)
    | command c fate => rfl
    | logged level text => rfl
    | masked secret => rfl

/-- A release of version 0.25.0 that succeeds has built its image. -/
theorem release_guard_usual :
    (usual "Zq8" "Qx9" ["1"]).dryRun = false ∧
      Mode.parse (usual "Zq8" "Qx9" ["1"]).asked = .ok .release ∧
      (usual "Zq8" "Qx9" ["1"]).allowOverwrite = false ∧
      ∀ result, ((usual "Zq8" "Qx9" ["1"]).run.run ⟨.still [] (.response {}), {}⟩).1 = .ok result →
        result.state = .skipped ∨
          ∃ call ∈ callsOf ((usual "Zq8" "Qx9" ["1"]).trace ⟨.still [] (.response {}), {}⟩),
            call.1.IsBuild := by
  have guard := release_guard (usual "Zq8" "Qx9" ["1"]) ⟨.still [] (.response {}), {}⟩
  exact ⟨rfl, rfl, rfl, (guard.2.1 rfl rfl rfl).2.1⟩

/-- The failure of a run whose last stage could not read a body. -/
def isUnread : Except Failure JobResult → Bool
  | .error (.notRead _) => true
  | _ => false

/-- An answer of status 500 with a body in a charset in which it cannot be read. -/
def unreadable : Response where
  status := 500
  body := "down"
  headers := [("content-type", "text/plain; charset=utf-16")]

/-- The registry is asked and answers 500, and the run fails, but not with a failed query. -/
theorem release_guard_unreadable :
    (∃ event ∈ (usual "Zq8" "Qx9" ["1"]).trace ⟨.still [] (.response unreadable), {}⟩,
      (event.lookup?.map (·.2)) = some (.response unreadable)) ∧
    ∀ url status body,
      ((usual "Zq8" "Qx9" ["1"]).run.run ⟨.still [] (.response unreadable), {}⟩).1 ≠
        .error (.rejected (.registryQuery url status body)) := by
  have unread : isUnread
      ((usual "Zq8" "Qx9" ["1"]).run.run ⟨.still [] (.response unreadable), {}⟩).1 = true := by
    decide +kernel
  refine ⟨by decide +kernel, fun url status body h => ?_⟩
  rw [h] at unread
  cases unread

end Publisher

end ImageRelease
