import ImageRelease.Proofs.Release.Rehearsal
import ImageRelease.Proofs.Surfaces

/-!
What an event asks for.

Between the payload of an event and a mode lie two fields that may be missing, the rule that a blank
value is as good as none, and the text of whatever value is found. All the same there is only one
way to ask for a release: a dispatch whose inputs give the text of that name. A number, a truth
value, an array or an object may be given as the mode, but its text is never the name of a mode.
-/

namespace ImageRelease

open Session Act

/-! ### Texts of values -/

namespace Number

lemma not_mem_toDigits {c : Char} (h : c.isDigit = false) (n : Nat) : c ∉ Nat.toDigits 10 n :=
  fun hc => Bool.false_ne_true
    (h.symm.trans (Nat.isDigit_of_mem_toDigits (by decide) (by decide) hc))

lemma not_mem_render {l : Layout} {d : Digits} (h : 'r' ∉ d.digits) : 'r' ∉ l.render d := by
  have power (n : Nat) : 'r' ∉ Nat.toDigits 10 n := not_mem_toDigits (by decide) n
  have taken (n : Nat) : 'r' ∉ d.digits.take n := fun hr => h (List.mem_of_mem_take hr)
  have dropped (n : Nat) : 'r' ∉ d.digits.drop n := fun hr => h (List.mem_of_mem_drop hr)
  have part : 'r' ∉ (if d.digits.length = 1 then [] else '.' :: d.digits.drop 1) := by
    split
    · exact List.not_mem_nil
    · exact List.not_mem_cons_of_ne_of_not_mem (by decide) (dropped 1)
  have sign : 'r' ≠ if d.point - 1 < 0 then '-' else '+' := by split <;> decide
  unfold Layout.render
  dsimp only
  split
  · split
    · simp [h, List.mem_replicate]
    · split
      · simp [h, List.mem_replicate]
      · simp [taken, dropped]
  · simp only [List.mem_append, List.mem_cons, List.mem_replicate, not_or]
    exact ⟨⟨⟨taken 1, part⟩, by decide, sign, fun zero => absurd zero.2 (by decide)⟩, power _⟩

lemma not_mem_shortest (mantissa : Nat) (exponent : Int) :
    'r' ∉ (shortest mantissa exponent).digits := by
  unfold shortest
  simp only [List.mem_reverse]
  intro h
  have kept := (List.dropWhile_sublist _).subset h
  exact not_mem_toDigits (by decide) _ (List.mem_reverse.mp kept)

lemma not_mem_text (x : Float) : 'r' ∉ (text x).toList := by
  unfold text
  split
  · decide
  · split <;> decide
  · case h_3 negative m e _ =>
    have body : 'r' ∉ (if m = 0 then ['0', '.', '0'] else plainLayout.render (shortest m e)) := by
      split
      · decide
      · exact not_mem_render (not_mem_shortest m e)
    dsimp only
    rw [String.toList_ofList]
    split
    · exact List.not_mem_cons_of_ne_of_not_mem (by decide) body
    · exact body

lemma not_mem_toString (n : Int) : 'r' ∉ (toString n).toList := by
  have digits (n : Nat) : 'r' ∉ (Nat.repr n).toList := by
    rw [Nat.toList_repr]
    exact not_mem_toDigits (by decide) n
  cases n with
  | ofNat n => exact digits n
  | negSucc n =>
    have parts : (toString (Int.negSucc n)).toList = '-' :: (Nat.repr (n + 1)).toList :=
      String.toList_append
    rw [parts]
    exact List.not_mem_cons_of_ne_of_not_mem (by decide) (digits _)

end Number

lemma Json.shown_eq_release {v : Json} : v.shown = "release" ↔ v = .str "release" := by
  refine ⟨fun h => ?_, fun h => h ▸ rfl⟩
  have letter : 'r' ∈ v.shown.toList := by rw [h]; decide
  have first : v.shown.toList.head? = some 'r' := by rw [h]; decide
  cases v with
  | str s => exact congrArg Json.str h
  | null => cases first
  | bool b => cases b <;> cases first
  | int n => exact absurd letter (Number.not_mem_toString n)
  | float x => exact absurd letter (Number.not_mem_text x)
  | arr items => simp [shown, literal] at first
  | obj fields => simp [shown, literal] at first

lemma Mode.parse_word_eq_release {word : String} :
    parse (.word word) = .ok .release ↔ word = "release" := by
  refine ⟨fun h => ?_, fun h => h ▸ rfl⟩
  simp only [parse] at h
  split at h
  · cases h
  · split at h
    · case h_1 found =>
      cases h
      exact ofName?_eq_some.mp found
    · cases h

namespace Trigger

/-! ### The word of an event -/

/-- A value that is neither blank nor an object, in which no field can be looked up. -/
def Stuck (v : Json) : Prop :=
  v.isBlank = false ∧ ∀ fields, v ≠ .obj fields

/-- A dispatch with inputs whose mode is the text for a release. -/
def AsksRelease (event : String) (payload : Json) : Prop :=
  event = dispatchEvent ∧ ∃ fields inputs, payload = .obj fields ∧
    Entries.get? "inputs" fields = some (.obj inputs) ∧
    Entries.get? "mode" inputs = some (.str "release")

lemma field_obj (name : String) (fields : List (String × Json)) :
    field name (.obj fields) = .ok ((Entries.get? name fields).getD .null) := by
  cases fields with
  | nil => rfl
  | cons => rfl

lemma field_eq_error {name : String} {v : Json} {e : Failure} :
    field name v = .error e ↔ Stuck v ∧ e = .lacks v.kind "get" := by
  cases blank : v.isBlank with
  | true => simp [field, Stuck, blank]
  | false => cases v <;> simp [field, Stuck, blank, eq_comm]

lemma field_eq_ok {name : String} {v w : Json} (some : w ≠ .null) :
    field name v = .ok w ↔ ∃ fields, v = .obj fields ∧ Entries.get? name fields = .some w := by
  constructor
  · intro h
    cases v with
    | obj fields =>
      rw [field_obj] at h
      cases found : Entries.get? name fields with
      | none => rw [found] at h; exact absurd (Except.ok.inj h).symm some
      | some u => rw [found] at h; exact ⟨fields, rfl, by rw [found, ← Except.ok.inj h]; rfl⟩
    | _ =>
      unfold field at h
      split at h
      · exact absurd (Except.ok.inj h).symm some
      · cases h
  · rintro ⟨fields, rfl, found⟩
    rw [field_obj, found]
    rfl

lemma modeOf_of_fields {payload inputs mode : Json} (hi : field "inputs" payload = .ok inputs)
    (hm : field "mode" inputs = .ok mode) :
    modeOf dispatchEvent payload = .ok (if mode.isBlank then "" else mode.shown) := by
  rw [modeOf, if_pos rfl, hi]
  dsimp only
  rw [hm]

lemma modeOf_of_other {event : String} (other : event ≠ dispatchEvent) (payload : Json) :
    modeOf event payload = .ok "" :=
  if_neg other

/-- There is no word where the payload is stuck, or what it gives as inputs. -/
lemma modeOf_eq_error {event : String} {payload : Json} {e : Failure} :
    modeOf event payload = .error e ↔ event = dispatchEvent ∧ ∃ v,
      (v = payload ∨ ∃ fields, payload = .obj fields ∧ Entries.get? "inputs" fields = some v) ∧
        Stuck v ∧ e = .lacks v.kind "get" := by
  constructor
  · intro h
    by_cases dispatch : event = dispatchEvent
    · subst dispatch
      rw [modeOf, if_pos rfl] at h
      cases hi : field "inputs" payload with
      | error e' =>
        rw [hi] at h
        cases h
        exact ⟨rfl, payload, .inl rfl, field_eq_error.mp hi⟩
      | ok inputs =>
        rw [hi] at h
        cases hm : field "mode" inputs with
        | error e' =>
          simp only [hm] at h
          cases h
          obtain ⟨stuck, told⟩ := field_eq_error.mp hm
          have given : inputs ≠ .null := fun null => by
            rw [null] at stuck
            cases stuck.1
          exact ⟨rfl, inputs, .inr ((field_eq_ok given).mp hi), stuck, told⟩
        | ok mode => simp only [hm] at h; cases h
    · rw [modeOf_of_other dispatch] at h
      cases h
  · rintro ⟨rfl, v, rfl | ⟨fields, rfl, found⟩, failed⟩
    · rw [modeOf, if_pos rfl, field_eq_error.mpr failed]
    · rw [modeOf, if_pos rfl, field_obj, found]
      dsimp only [Option.getD_some]
      rw [field_eq_error.mpr failed]

/-- The word of an event asks for a release exactly if the event does. -/
lemma parse_modeOf {event word : String} {payload : Json} (h : modeOf event payload = .ok word) :
    Mode.parse (.word word) = .ok .release ↔ AsksRelease event payload := by
  constructor
  · intro asked
    have release : word = "release" := Mode.parse_word_eq_release.mp asked
    subst release
    by_cases dispatch : event = dispatchEvent
    · subst dispatch
      rw [modeOf, if_pos rfl] at h
      cases hi : field "inputs" payload with
      | error e => rw [hi] at h; cases h
      | ok inputs =>
        rw [hi] at h
        cases hm : field "mode" inputs with
        | error e => simp only [hm] at h; cases h
        | ok mode =>
          simp only [hm, Except.ok.injEq] at h
          split at h
          · exact absurd h (by decide)
          · obtain rfl := Json.shown_eq_release.mp h
            obtain ⟨inner, rfl, given⟩ := (field_eq_ok (w := .str "release") nofun).mp hm
            obtain ⟨fields, rfl, found⟩ := (field_eq_ok (w := .obj inner) nofun).mp hi
            exact ⟨rfl, fields, inner, rfl, found, given⟩
    · rw [modeOf_of_other dispatch] at h
      exact absurd (Except.ok.inj h) (by decide)
  · rintro ⟨rfl, fields, inputs, rfl, found, given⟩
    have asks : modeOf dispatchEvent (.obj fields) = .ok "release" :=
      modeOf_of_fields ((field_eq_ok (w := .obj inputs) nofun).mpr ⟨fields, rfl, found⟩)
        ((field_eq_ok (w := .str "release") nofun).mpr ⟨inputs, rfl, given⟩)
    rw [← Except.ok.inj (asks.symm.trans h)]
    rfl

end Trigger

/-! ### A release by event -/

lemma callsOf_of_outward {new : List Event} (quiet : outward new = []) : callsOf new = [] := by
  refine callsOf_of_quiet (movesOf_eq_nil.mpr fun e he => ?_)
  exact Option.not_isSome_iff_eq_none.mp (List.filter_eq_nil_iff.mp quiet e he)

namespace Publisher

variable (p : Publisher)

lemma tag_of_build {x : Publishing} {c : Command} {e : Ending} (hc : (c, e) ∈ callsOf (p.trace x))
    (build : c.IsBuild) : ∃ request, p.requestIn x.session = .ok request ∧
      flagValue? "--tag" (c.argv.drop 3) = some (p.selection request).tag := by
  obtain ⟨-, last, request, asked, all⟩ := p.calls_of_build hc build
  have image : (c.argv, c.cwd) = (p.imageCommand request, none) := by
    have ends : ((callsOf (p.trace x)).map (·.1.shape)).getLast? =
        some (p.imageCommand request, none) := by
      rw [all, commands, List.getLast?_append]
      rfl
    rw [List.getLast?_map, last] at ends
    exact Option.some.inj ends
  obtain ⟨-, -, tag⟩ := p.imageCommand_pushes asked
  exact ⟨request, asked, by rw [(Prod.mk.inj image).1, tag]⟩

lemma nightly_of_build {x : Publishing} {c : Command} {e : Ending}
    (hc : (c, e) ∈ callsOf (p.trace x)) (build : c.IsBuild) : ∃ tag,
      flagValue? "--tag" (c.argv.drop 3) = some tag ∧
        (tag ≠ p.settings.image.image ++ ":" ++ nightlyTag →
          Mode.parse p.asked = .ok .release) := by
  obtain ⟨request, asked, tag⟩ := p.tag_of_build hc build
  refine ⟨_, tag, fun other => ?_⟩
  obtain ⟨mode, version, parsed, -⟩ := p.create_of_requestIn asked
  have same := p.mode_of_requestIn parsed asked
  cases mode with
  | release => exact parsed
  | nightly =>
    refine absurd ?_ other
    rw [selection, Request.select, Request.reference, same]

end Publisher

namespace CommandLine

/-- The release that a command line orders, by the word for its mode. -/
def ordered (o : PublishOptions) (settings : Settings) (s : Session) (word : String) :
    Publisher where
  asked := .word word
  settings
  repository := s.env.getD "GITHUB_REPOSITORY" ""
  dryRun := o.dryRun
  allowOverwrite := o.allowOverwrite
  root := .parse o.root
  jobId := s.jobId

/-- The word for the mode of a command line: that of the event, or its own. -/
def wordOf (o : PublishOptions) (s : Session) (payload : Json) : Except Failure String :=
  if o.fromEvent then Trigger.modeOf (s.env.getD "GITHUB_EVENT_NAME" "") payload else .ok o.mode

/-- How a command line for a release goes: it fails before anything is released, or it releases. -/
inductive Publishes (o : PublishOptions) (s : Session) : Except Failure JobResult × Session → Prop
  | failed (e : Failure) {t : Session} (lines : List Event) (quiet : outward lines = [])
      (journal : t.journal = s.journal ++ lines) : Publishes o s (.error e, t)
  | released {settings : Settings} {payload : Json} {word : String} (text : String)
      (loaded : Settings.load s.env = .ok settings)
      (read : Trigger.payloadFor s.files s.env = .ok payload)
      (asked : wordOf o s payload = .ok word) :
      Publishes o s ((ordered o settings s word).release.run (s.noted (.logged .info text)))

lemma run_load {s : Session} {payload : Json}
    (read : Trigger.payloadFor s.files s.env = .ok payload) : ∃ text,
      (Trigger.load s.env).run s =
        (.ok ⟨s.env.getD "GITHUB_EVENT_NAME" "", s.env.getD "GITHUB_REPOSITORY" "", payload⟩,
          s.noted (.logged .info text)) := by
  rw [Trigger.load, run_bind_of_ok (run_state s), read]
  exact ⟨_, rfl⟩

lemma run_wordOf {α : Type} (o : PublishOptions) (s : Session) (repository : String)
    (payload : Json) (f : String → Act Session α) (t : Session) :
    (if o.fromEvent then
        ofExcept (Trigger.mode ⟨s.env.getD "GITHUB_EVENT_NAME" "", repository, payload⟩) >>= f
      else pure o.mode >>= f).run t = (ofExcept (wordOf o s payload) >>= f).run t := by
  unfold wordOf
  split
  · rfl
  · rfl

lemma publishes (o : PublishOptions) (s : Session) : Publishes o s ((publish o).run s) := by
  have none : s.journal = s.journal ++ [] := (List.append_nil _).symm
  rw [publish, run_bind_of_ok (run_state s)]
  cases loaded : Settings.load s.env with
  | error e => exact .failed e [] rfl none
  | ok settings =>
    have loads : (ofExcept (.ok settings)).run s = (.ok settings, s) := rfl
    rw [run_bind_of_ok loads]
    cases read : Trigger.payloadFor s.files s.env with
    | error e =>
      have fails : (Trigger.load s.env).run s = (.error e, s) := by
        rw [Trigger.load, run_bind_of_ok (run_state s), read]
        rfl
      rw [run_bind_of_error fails]
      exact .failed e [] rfl none
    | ok payload =>
      obtain ⟨text, told⟩ := run_load read
      rw [run_bind_of_ok told]
      dsimp only
      rw [run_wordOf]
      cases asked : wordOf o s payload with
      | error e => exact .failed e _ rfl rfl
      | ok word => exact .released text loaded read asked

/-- What a command line adds to the journal. -/
def trace (args : List String) (s : Session) : List Event :=
  ((run args).run s).2.journal.drop s.journal.length

lemma calls_of_line {args : List String} {o : PublishOptions} (s : Session)
    (line : Invocation.read args = .ok (.publish o)) {call : Command × Ending}
    (called : call ∈ callsOf (trace args s)) : ∃ settings payload word x,
      Settings.load s.env = .ok settings ∧ Trigger.payloadFor s.files s.env = .ok payload ∧
        wordOf o s payload = .ok word ∧ call ∈ callsOf ((ordered o settings s word).trace x) := by
  have ran : run args = (Invocation.publish o).run := by rw [run, line]
  obtain ⟨-, lines, quiet, journal⟩ := run_publish o s
  rw [trace, ran, journal] at called
  have publishes := publishes o s
  generalize (publish o).run s = ended at publishes called
  cases publishes with
  | failed e more quiet' grown =>
    dsimp only at called
    rw [grown, List.append_assoc, List.drop_left, callsOf_append, callsOf_of_outward quiet,
      callsOf_of_outward quiet'] at called
    cases called
  | @released settings payload word text loaded read asked =>
    have told : callsOf [.logged .info text] = [] := rfl
    rw [Publisher.journal_release, noted, List.append_assoc, List.append_assoc, List.drop_left,
      callsOf_append, callsOf_append, callsOf_append, told, callsOf_of_outward quiet,
      callsOf_of_outward (Publisher.outward_masks _), List.append_nil, List.nil_append] at called
    exact ⟨settings, payload, word, _, loaded, read, asked, called⟩

end CommandLine

/-- **Asking for a release**: whatever the name of an event and its payload, its word asks for a
release exactly if the event is a dispatch, and its payload an object with inputs that are an object
and give the text `release` as the mode; no other value shows as that text. Every other event asks
for a nightly image. There is no word exactly if the payload of a dispatch or its inputs are stuck.
So a command line that goes by the event pushes another tag than the nightly one only where the
event asks for a release. -/
theorem release_asked_exactly :
    (∀ event payload word, Trigger.modeOf event payload = .ok word →
      (Mode.parse (.word word) = .ok .release ↔ Trigger.AsksRelease event payload)) ∧
    (∀ v : Json, v.shown = "release" ↔ v = .str "release") ∧
    (∀ event payload, event ≠ dispatchEvent → ∃ word,
      Trigger.modeOf event payload = .ok word ∧ Mode.parse (.word word) = .ok .nightly) ∧
    (∀ event payload e, Trigger.modeOf event payload = .error e ↔ event = dispatchEvent ∧ ∃ v,
      (v = payload ∨ ∃ fields, payload = .obj fields ∧ Entries.get? "inputs" fields = some v) ∧
        Trigger.Stuck v ∧ e = .lacks v.kind "get") ∧
    ∀ args o s, CommandLine.Invocation.read args = .ok (.publish o) → o.fromEvent = true →
      ∀ call ∈ callsOf (CommandLine.trace args s), call.1.IsPush → ∃ settings tag,
        Settings.load s.env = .ok settings ∧
          flagValue? "--tag" (call.1.argv.drop 3) = some tag ∧
          (tag ≠ settings.image.image ++ ":" ++ nightlyTag → ∃ payload,
            Trigger.payloadFor s.files s.env = .ok payload ∧
              Trigger.AsksRelease (s.env.getD "GITHUB_EVENT_NAME" "") payload) := by
  refine ⟨fun _ _ _ => Trigger.parse_modeOf, fun _ => Json.shown_eq_release,
    fun event payload other => ⟨"", Trigger.modeOf_of_other other payload, rfl⟩,
    fun _ _ _ => Trigger.modeOf_eq_error, ?_⟩
  intro args o s line byEvent call called push
  obtain ⟨settings, payload, word, x, loaded, read, asked, hc⟩ :=
    CommandLine.calls_of_line s line called
  obtain ⟨tag, flag, other⟩ := Publisher.nightly_of_build _ hc push.1
  refine ⟨settings, tag, loaded, flag, fun h => ⟨payload, read, ?_⟩⟩
  rw [CommandLine.wordOf, if_pos byEvent] at asked
  exact (Trigger.parse_modeOf asked).mp (other h)

/-- A session in which the tools do their work, after a dispatch that asks for a release. -/
def Session.dispatched : Session :=
  { Publisher.furnished with
    env := (Session.provided [("GITHUB_EVENT_NAME", "workflow_dispatch"),
      ("GITHUB_EVENT_PATH", "event.json")]).env
    files.entries :=
      [(["gradle.properties"], .file (Text.Utf8.encode "djl_version=0.25.0\n".toList)),
        (["event.json"], .file (Text.Utf8.encode
          "\x7b\"inputs\": \x7b\"mode\": \"release\"\x7d\x7d".toList))] }

/-- A dispatch that asks for a release makes one, whatever mode the command line gives. -/
theorem release_asked_exactly_dispatched :
    (∃ word, Trigger.modeOf "workflow_dispatch"
        (.obj [("inputs", .obj [("mode", .str "release")])]) = .ok word ∧
          Mode.parse (.word word) = .ok .release) ∧
      (∃ word, Trigger.modeOf "schedule" (.arr []) = .ok word ∧
        Mode.parse (.word word) = .ok .nightly) ∧
      (∃ call ∈ callsOf (CommandLine.trace ["publish", "--from-event", "--mode=nightly"]
        Session.dispatched), call.1.IsPush ∧
          flagValue? "--tag" (call.1.argv.drop 3) = some "deepjavalibrary/djl-spark:0.25.0-cpu") ∧
      ∃ payload, Trigger.payloadFor Session.dispatched.files Session.dispatched.env = .ok payload ∧
        Trigger.AsksRelease "workflow_dispatch" payload := by
  obtain ⟨asks, -, others, -, pushes⟩ := release_asked_exactly
  have read : CommandLine.Invocation.read ["publish", "--from-event", "--mode=nightly"] =
      .ok (.publish { mode := "nightly", fromEvent := true }) := ok_of_toOption (by decide +kernel)
  have image : (Settings.load Session.dispatched.env).toOption.map (·.image.image) =
      some "deepjavalibrary/djl-spark" := by decide +kernel
  have pushed : ∃ call ∈ callsOf (CommandLine.trace ["publish", "--from-event", "--mode=nightly"]
      Session.dispatched), (["docker", "buildx", "build"] <+: call.1.argv ∧
        "--push" ∈ call.1.argv) ∧ flagValue? "--tag" (call.1.argv.drop 3) =
          some "deepjavalibrary/djl-spark:0.25.0-cpu" := by
    decide +kernel
  refine ⟨⟨"release", rfl, (asks "workflow_dispatch" _ "release" rfl).mpr
    ⟨rfl, [("inputs", .obj [("mode", .str "release")])], [("mode", .str "release")], rfl, rfl,
      rfl⟩⟩, others "schedule" _ (by decide), pushed, ?_⟩
  obtain ⟨call, called, push, told⟩ := pushed
  obtain ⟨settings, tag, loaded, flag, other⟩ :=
    pushes _ _ Session.dispatched read rfl call called push
  rw [loaded] at image
  have same : settings.image.image = "deepjavalibrary/djl-spark" := Option.some.inj image
  refine other ?_
  rw [same, ← Option.some.inj (told.symm.trans flag)]
  decide

end ImageRelease
