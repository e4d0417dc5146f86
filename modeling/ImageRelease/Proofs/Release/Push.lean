import ImageRelease.Proofs.Release.Guard
import ImageRelease.Proofs.Release.OnRecord

/-!
What a result tells of the push.

The image is built by the last command of a run, and the build pushes it. So a run with a build that
succeeded has delivered, and `pushed_iff` says that a result tells of a push exactly where there was
one in this very run.
-/

namespace ImageRelease

open Session Act

/-- A command that builds an image and pushes it. -/
def Command.IsPush (c : Command) : Prop :=
  c.IsBuild ∧ "--push" ∈ c.argv

instance (c : Command) : Decidable c.IsPush :=
  inferInstanceAs (Decidable (["docker", "buildx", "build"] <+: c.argv ∧ "--push" ∈ c.argv))

lemma Request.push_of_create {asked : Asked} {version : Option String} {r : Request}
    (h : create asked version = .ok r) : r.push = true := by
  unfold create at h
  split at h
  · cases h
  · dsimp only at h
    split at h
    · cases h
    · cases h
      rfl

namespace Publisher

variable (p : Publisher)

lemma push_of_requestIn {s : Session} {request : Request} (h : p.requestIn s = .ok request) :
    request.push = true := by
  obtain ⟨mode, version, -, made⟩ := p.create_of_requestIn h
  exact Request.push_of_create made

/-- A build is the last call of a run, and all planned commands were called. -/
lemma calls_of_build {x : Publishing} {c : Command} {e : Ending}
    (hc : (c, e) ∈ callsOf (p.trace x)) (build : c.IsBuild) :
    p.dryRun = false ∧ (callsOf (p.trace x)).getLast? = some (c, e) ∧
      ∃ request, p.requestIn x.session = .ok request ∧
        (callsOf (p.trace x)).map (·.1.shape) = p.commands x.session.interpreter request := by
  obtain ⟨new, lead, along⟩ := p.follows_run x
  rw [p.trace_eq lead] at hc ⊢
  obtain ⟨event, he, called⟩ := List.mem_filterMap.mp hc
  obtain rfl : event = .command c (.started e) := by
    rcases event with _ | ⟨c', _ | e'⟩ | _ | _ <;> cases called
    rfl
  have real : p.dryRun = false := lead.earnest he
  have shapes := lead.shapes real
  obtain ⟨old, rest, rfl⟩ := List.append_of_mem he
  have planned : .call c.argv c.cwd ∈ p.plan x.session :=
    along.moves.subset (List.mem_filterMap.mpr ⟨_, he, rfl⟩)
  have admitted : p.Admitted := by
    by_contra barred
    rw [plan, earlyPlan, latePlan, if_neg barred, if_neg barred] at planned
    cases planned
  obtain ⟨request, asked, hplan⟩ := p.request_of_build planned build
  have moves := along.moves
  rw [hplan] at along
  have only : .call c.argv c.cwd ∉ p.earlyPlan x.session ++ p.lookupMoves request := by
    rw [List.mem_append, not_or]
    refine ⟨fun early => p.not_build_of_mem_earlyPlan early build, ?_⟩
    unfold lookupMoves
    split <;> simp
  obtain ⟨before, last⟩ := along.reached (e := .command c (.started e)) rfl only
  -- the build is the last move of the plan, so nothing is left to move after it
  have whole : movesOf (old ++ .command c (.started e) :: rest) = p.plan x.session := by
    refine moves.eq_of_length_le ?_
    rw [hplan, movesOf_append, before]
    simp [movesOf, Event.move?]
  have quiet : movesOf rest = [] := by
    rw [hplan, movesOf_append, before, List.append_cancel_left_eq] at whole
    exact (List.cons.inj whole).2
  refine ⟨real, ?_, request, asked, by rw [shapes, whole, p.calls_plan admitted asked]⟩
  rw [← List.singleton_append, callsOf_append, callsOf_append, callsOf_of_quiet quiet,
    List.append_nil]
  exact List.getLast?_concat

lemma delivered_of_build {x : Publishing} (timely : x.session.Timely) {c : Command} {e : Ending}
    (hc : (c, e) ∈ callsOf (p.trace x)) (build : c.IsBuild) (succeeded : e.Succeeded) :
    p.dryRun = false ∧ ∃ r, (p.run.run x).1 = .ok r ∧ r.state = .delivered := by
  obtain ⟨real, last, request, asked, all⟩ := p.calls_of_build hc build
  refine ⟨real, p.delivered_of_calls real timely asked all fun call hl => ?_⟩
  rw [last, Option.mem_some_iff] at hl
  rwa [← hl]

lemma told_of_ok {x : Publishing} (timely : x.session.Timely) {r : JobResult}
    (h : (p.run.run x).1 = .ok r) :
    (r.pushed = true ↔ p.dryRun = false ∧ r.state = .delivered) ∧
      (r.state = .delivered → ∃ request, p.requestIn x.session = .ok request ∧
        r.imageTag = some (p.selection request).tag) := by
  have outcome := p.run_outcome timely
  generalize (p.run.run x).2.progress = g at outcome
  rw [h] at outcome
  cases outcome with
  | skipped skipped =>
    obtain ⟨-, time, rfl⟩ := skipped
    refine ⟨⟨fun pushed => ?_, nofun⟩, nofun⟩
    unfold result at pushed
    cases hs : x.progress.selection <;> simp [hs, Progress.timed] at pushed
  | delivered delivered =>
    obtain ⟨request, asked, -, selected⟩ := delivered.made
    have push : (p.selection request).push = true := p.push_of_requestIn asked
    refine ⟨?_, fun _ => ⟨request, asked, by simp [result, selected]⟩⟩
    simp [result, selected, push, delivered.state]

lemma not_build_of_mem_front {interpreter : String} {shape : List String × Option String}
    (h : shape ∈ p.logins ++ [([interpreter, "setup.py", "bdist_wheel"],
      some (p.root.join p.settings.wheelDirectory).text)]) :
    ¬["docker", "buildx", "build"] <+: shape.1 := by
  intro build
  simp only [logins, List.mem_append, List.mem_cons, List.mem_flatMap, List.not_mem_nil,
    or_false] at h
  rcases h with ((rfl | ⟨_, -, rfl | rfl⟩) | rfl) | rfl <;> simp [List.cons_prefix_cons] at build

lemma build_of_delivered {x : Publishing} (real : p.dryRun = false) {request : Request}
    (asked : p.requestIn x.session = .ok request) {r : JobResult} (h : (p.run.run x).1 = .ok r)
    (delivered : r.state = .delivered) :
    ∃ before c e, callsOf (p.trace x) = before ++ [(c, e)] ∧ c.argv = p.imageCommand request ∧
      e.Succeeded ∧ ∀ call ∈ before, ¬call.1.IsBuild := by
  obtain ⟨all, succeeded⟩ := p.calls_of_delivered real asked h delivered
  have parts : p.commands x.session.interpreter request =
      (p.logins ++ [([x.session.interpreter, "setup.py", "bdist_wheel"],
        some (p.root.join p.settings.wheelDirectory).text)]) ++
          [(p.imageCommand request, none)] := by
    rw [commands, List.append_assoc]
    rfl
  rw [parts] at all
  obtain ⟨before, last, hc, front, image⟩ := List.map_eq_append_iff.mp all
  obtain ⟨⟨c, e⟩, rfl, shape⟩ := List.map_eq_singleton_iff.mp image
  refine ⟨before, c, e, hc, congrArg Prod.fst shape, succeeded (c, e) (by rw [hc]; simp), ?_⟩
  intro call hm
  have planned : call.1.shape ∈ before.map (·.1.shape) := List.mem_map.mpr ⟨call, hm, rfl⟩
  rw [front] at planned
  exact p.not_build_of_mem_front planned

lemma imageCommand_pushes {s : Session} {request : Request} (asked : p.requestIn s = .ok request) :
    ["docker", "buildx", "build"] <+: p.imageCommand request ∧
      ["--push", (p.root.join p.settings.image.context).text] <:+ p.imageCommand request ∧
      flagValue? "--tag" ((p.imageCommand request).drop 3) = some (p.selection request).tag := by
  have push : (p.selection request).push = true := p.push_of_requestIn asked
  refine ⟨⟨_, rfl⟩, ?_, ?_⟩
  · have flag : request.push = true := push
    rw [imageCommand, flag]
    exact List.suffix_append _ _
  · rw [← buildCommand_eq]
    exact p.flagValue?_buildCommand _ _ rfl

/-- **Pushed or not**: whatever runs came before, a run makes a build that pushes and succeeds
exactly if it returns a result that tells of a push. That build is then the last call of the run and
its only build, and its tag is the one in the result. -/
theorem pushed_iff (earlier : List Session) (world : Session) (timely : world.Timely) :
    ((∃ call ∈ callsOf (p.trace (p.onTurn earlier world)), call.1.IsPush ∧ call.2.Succeeded) ↔
        ∃ r, (p.run.run (p.onTurn earlier world)).1 = .ok r ∧ r.pushed = true) ∧
      ∀ r, (p.run.run (p.onTurn earlier world)).1 = .ok r → r.pushed = true →
        ∃ before c e context, callsOf (p.trace (p.onTurn earlier world)) = before ++ [(c, e)] ∧
          (∀ call ∈ before, ¬call.1.IsBuild) ∧ c.IsPush ∧ ["--push", context] <:+ c.argv ∧
          e.Succeeded ∧ flagValue? "--tag" (c.argv.drop 3) = r.imageTag := by
  have sound : (p.onTurn earlier world).session.Timely := timely
  generalize p.onTurn earlier world = x at sound
  have pushes : ∀ r, (p.run.run x).1 = .ok r → r.pushed = true →
      ∃ before c e context, callsOf (p.trace x) = before ++ [(c, e)] ∧
        (∀ call ∈ before, ¬call.1.IsBuild) ∧ c.IsPush ∧ ["--push", context] <:+ c.argv ∧
        e.Succeeded ∧ flagValue? "--tag" (c.argv.drop 3) = r.imageTag := by
    intro r h pushed
    obtain ⟨told, image⟩ := p.told_of_ok sound h
    obtain ⟨real, delivered⟩ := told.mp pushed
    obtain ⟨request, asked, tag⟩ := image delivered
    obtain ⟨before, c, e, calls, argv, succeeded, others⟩ :=
      p.build_of_delivered real asked h delivered
    obtain ⟨build, push, flag⟩ := p.imageCommand_pushes asked
    rw [← argv] at build push flag
    exact ⟨before, c, e, _, calls, others, ⟨build, push.subset List.mem_cons_self⟩, push,
      succeeded, by rw [flag, tag]⟩
  refine ⟨⟨?_, ?_⟩, pushes⟩
  · rintro ⟨⟨c, e⟩, hc, push, succeeded⟩
    obtain ⟨real, r, h, delivered⟩ := p.delivered_of_build sound hc push.1 succeeded
    exact ⟨r, h, (p.told_of_ok sound h).1.mpr ⟨real, delivered⟩⟩
  · rintro ⟨r, h, pushed⟩
    obtain ⟨before, c, e, _, calls, -, push, -, succeeded, -⟩ := pushes r h pushed
    exact ⟨(c, e), by rw [calls]; simp, push, succeeded⟩

/-- A release after one that failed at its first tool. -/
theorem pushed_iff_usual :
    (Session.still [] (.response {})).Timely ∧
      ((∃ call ∈ callsOf ((usual "Zq8" "Qx9" ["1"]).trace ((usual "Zq8" "Qx9" ["1"]).onTurn
          [.still [.exited 1 "" ""] (.response {})] (.still [] (.response {})))),
          call.1.IsPush ∧ call.2.Succeeded) ↔
        ∃ r, ((usual "Zq8" "Qx9" ["1"]).run.run ((usual "Zq8" "Qx9" ["1"]).onTurn
          [.still [.exited 1 "" ""] (.response {})] (.still [] (.response {})))).1 = .ok r ∧
          r.pushed = true) := by
  have timely := timely_still [] (.response {})
  exact ⟨timely, (pushed_iff (usual "Zq8" "Qx9" ["1"]) _ _ timely).1⟩

/-- A build pushed and exited with a status of zero, but it wrote what is no text: there is no
result. -/
theorem pushed_iff_unreadable :
    Text.Utf8.decode [0xE9] = .error latinByte ∧
      (∃ call ∈ callsOf ((usual "Zq8" "Qx9" ["1"]).trace ⟨wroteLatin, {}⟩),
        call.1.IsPush ∧ call.2.status? = some 0) ∧
      ((usual "Zq8" "Qx9" ["1"]).run.run ⟨wroteLatin, {}⟩).1.isOk = false := by
  refine ⟨?_, ?_, ?_⟩ <;> decide +kernel

end Publisher

end ImageRelease
