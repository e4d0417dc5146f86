import ImageRelease.Proofs.CommandLine
import ImageRelease.Proofs.Planning
import ImageRelease.Proofs.ReadBack
import ImageRelease.Proofs.Release.Permission
import ImageRelease.Proofs.Selections

/-!
All ways of planning agree.

The choice of a tag, the command line and the service each have a value of their own for a mode that
is not given, and each tell a refusal in a form of their own. All of them make one request, so all
of them plan the same, or all of them refuse the same, or a surrogate that stands alone in the tag
makes all of them fail: `plans_agree`. The plan is decided by the version without the blanks at its
ends.
-/

namespace ImageRelease

open Session Act

/-! ### What is decided -/

/-- What a mode asks for that may not be given. -/
def Asked.ofOption (mode : Option String) : Asked :=
  mode.elim .nothing .word

/-- The plan for a mode and a version that has no blanks at its ends. -/
def Plan.decided (image : String) (mode : Option String) (version : String)
    (places : Text.Surrogate.Places) : Except Failure Plan :=
  Plan.make (.ofOption mode) (some version) image places

/-- The refusals of a request. -/
inductive Rejection.OfRequest : Rejection → Prop
  | mode (word : String) : OfRequest (.invalidMode (.str word))
  | version : OfRequest (.missingVersion anyVersionKey)

namespace Request

lemma create_strip (asked : Asked) (version : Option String) :
    create asked version = create asked (some (Text.strip (version.getD ""))) := by
  -- a request trims the version once more, which changes nothing
  have again : Text.strip (Text.strip (version.getD "")) = Text.strip (version.getD "") :=
    Text.strip_ofList_trim _
  simp only [create, Option.getD_some, again]

/-- No mode, an empty word and the name of the nightly mode ask for the same. -/
lemma create_ofOption (mode : Option String) (version : Option String) {usual : String}
    (nightly : Mode.parse (.word usual) = .ok .nightly) :
    create (.word (mode.getD usual)) version = create (.ofOption mode) version := by
  cases mode with
  | none => exact create_of_parse nightly version
  | some m => rfl

lemma refused_of_create {mode version : Option String} {r : Rejection}
    (h : create (.ofOption mode) version = .error r) : r.OfRequest := by
  cases parsed : Mode.parse (.ofOption mode) with
  | error r' =>
    rw [create_of_refused parsed] at h
    cases h
    cases mode with
    | none => cases parsed
    | some m =>
      obtain ⟨-, rfl⟩ := Mode.parse_word_eq_error.mp parsed
      exact .mode m
  | ok m =>
    simp only [create, parsed] at h
    split at h
    · cases h
      exact .version
    · cases h

end Request

namespace Plan

variable {image : String} {mode version : Option String} {places : Text.Surrogate.Places}

/-- Each surface plans what is decided, with its own value for a mode that is not given. -/
lemma make_eq_decided (image : String) (mode version : Option String) {usual : String}
    (nightly : Mode.parse (.word usual) = .ok .nightly) :
    make (.word (mode.getD usual)) version image places =
      decided image mode (Text.strip (version.getD "")) places := by
  rw [decided, make, make, Request.create_ofOption mode version nightly, Request.create_strip]

lemma selectTag_eq_decided (image : String) (mode version : Option String) :
    selectTag (.ofOption mode) version image places =
      (decided image mode (Text.strip (version.getD "")) places).map (·.selection) := by
  rw [selectTag_eq, decided, make, make, Request.create_strip]

lemma decided_of_refused {r : Rejection} (h : Request.create (.ofOption mode) version = .error r) :
    decided image mode (Text.strip (version.getD "")) places = .error (.rejected r) := by
  rw [Request.create_strip] at h
  exact make_of_refused h image

lemma decided_of_created {request : Request}
    (h : Request.create (.ofOption mode) version = .ok request) :
    decided image mode (Text.strip (version.getD "")) places =
      if Text.IsUnicode (request.select image).tag places then .ok (ofRequest request image)
      else .error (request.select image).unwritable := by
  rw [Request.create_strip] at h
  exact make_of_created h image

end Plan

/-! ### What can be told of it -/

variable {places : Text.Surrogate.Places}

lemma Json.isUnicode_texts {fields : List (String × String)}
    (h : ∀ f ∈ fields, Text.IsUnicode f.1 places ∧ Text.IsUnicode f.2 places) :
    Text.IsUnicode (dense (.obj (texts fields))) places := by
  refine isUnicode_dense fun g hg => ?_
  obtain ⟨f, hf, rfl⟩ := List.mem_map.mp hg
  exact ⟨(h f hf).1, isUnicode_stringText (h f hf).2⟩

lemma Plan.writable_ofRequest {request : Request} {image : String}
    (tag : Text.IsUnicode (request.select image).tag places) :
    (ofRequest request image).toJson.Writable places := by
  have known {t : String} (common : Text.AllCommon t.toList) : Text.IsUnicode t places :=
    Text.isUnicode_of_common common places
  obtain ⟨-, version⟩ := (request.isUnicode_tag_iff image).mp tag
  have args : Text.IsUnicode (Json.obj (Json.texts request.buildArgs)).dense places := by
    refine Json.isUnicode_texts ?_
    unfold Request.buildArgs
    split
    · nofun
    · case h_2 release => simpa using ⟨known (by decide), version release⟩
  have mode (m : Mode) : Text.IsUnicode (Json.str m.name).dense places := by
    cases m <;> exact known (by decide)
  have push (b : Bool) : Text.IsUnicode (Json.bool b).dense places := by
    cases b <;> exact known (by decide)
  refine ⟨by rcases request with ⟨_ | _, _, _⟩ <;> rfl, Json.isUnicode_dense ?_⟩
  simp only [List.forall_mem_cons, List.not_mem_nil, false_imp_iff, implies_true, and_true]
  exact ⟨⟨known (by decide), mode _⟩, ⟨known (by decide), Json.isUnicode_stringText tag⟩,
    ⟨known (by decide), push _⟩, known (by decide), args⟩

lemma Rejection.OfRequest.isToolFailure {r : Rejection} (h : r.OfRequest) :
    r.isToolFailure = false := by
  cases h <;> rfl

/-- The report of a refused plan can be written, whatever the mode is. -/
lemma Rejection.OfRequest.writable_detail {r : Rejection} (h : r.OfRequest) :
    (Service.detail r.report.toJson).Writable places := by
  have known {t : String} (common : Text.AllCommon t.toList) : Text.IsUnicode t places :=
    Text.isUnicode_of_common common places
  have report : r.report.toJson = .obj (Json.texts [("error_code", r.report.code),
      ("message", r.report.message), ("suggestion", r.report.suggestion.getD "")]) := by
    cases h <;> rfl
  have texts : Text.IsUnicode r.report.code places ∧ Text.IsUnicode r.report.message places ∧
      Text.IsUnicode (r.report.suggestion.getD "") places := by
    cases h with
    | mode word =>
      have message : Text.IsUnicode ("Unknown publish mode: " ++ Text.quoted word) places :=
        Text.isUnicode_append.mpr ⟨known (by decide), Text.isUnicode_quoted word⟩
      have code : Text.IsUnicode "INVALID_MODE" places := known (by decide)
      have suggestion : Text.IsUnicode "Use 'nightly' (default) or 'release'." places :=
        known (by decide)
      exact ⟨code, message, suggestion⟩
    | version => exact ⟨known (by decide), known (by decide), known (by decide)⟩
  obtain ⟨code, message, suggestion⟩ := texts
  have inner : Text.IsUnicode r.report.toJson.dense places := by
    rw [report]
    refine Json.isUnicode_texts ?_
    simp only [List.forall_mem_cons, List.not_mem_nil, false_imp_iff, implies_true, and_true]
    exact ⟨⟨known (by decide), code⟩, ⟨known (by decide), message⟩, known (by decide), suggestion⟩
  have name : Text.IsUnicode "detail" places := known (by decide)
  exact ⟨by cases h <;> rfl,
    Json.isUnicode_dense (List.forall_mem_singleton.mpr ⟨name, inner⟩)⟩

/-! ### The command line -/

namespace CommandLine

/-- A plan that no properties file is given to is made of what is on its line. -/
lemma run_plan_versioned {s : Session} {settings : Settings}
    (loaded : Settings.load s.env = .ok settings) (mode : String) (version : Option String)
    (output : Output) : (plan ⟨mode, version, none, output⟩).run s =
      (Plan.make (.word mode) version settings.image.image s.files.places, s) := by
  rw [plan, run_bind_of_ok (run_state s), run_bind_of_ok (run_loaded loaded)]
  exact run_ofExcept _ s

lemma run_planLine {s : Session} {settings : Settings}
    (loaded : Settings.load s.env = .ok settings) (mode version : Option String)
    (form : Option Output) : ((run (planLine mode version form)).run s).1 =
      told ((Plan.decided settings.image.image mode (Text.strip (version.getD ""))
        s.files.places).map fun plan => (form.getD .text).print plan) := by
  have run : run (planLine mode version form) = answering (do
      return (form.getD .text).print
        (← plan ⟨mode.getD "", version, none, form.getD .text⟩)) := by
    rw [CommandLine.run, read_planLine]
    rfl
  rw [run, (run_answering _ s).1, run_bind_pure, run_plan_versioned loaded,
    Plan.make_eq_decided _ mode version rfl]

end CommandLine

/-! ### The service -/

namespace Service

/-- A call asks for a plan with a mode and a version: its body is an object with these fields, if
there are any. A version that there is not may be null, and other fields do not count. -/
structure AsksPlan (mode version : Option String) (c : Call) : Prop where
  posted : c.method = Endpoint.plan.method
  endpoint : Endpoint.at? c.path = some .plan
  body : ∃ text fields, Json.textOf? c.body = some text ∧
    Json.read text bodyLimits = .ok (.obj fields) ∧
    Entries.get? "mode" fields = mode.map .str ∧
    (Entries.get? "version" fields = version.map .str ∨
      version = none ∧ Entries.get? "version" fields = some .null)

def planTexts (mode version : Option String) : List (String × String) :=
  (mode.map ("mode", ·)).toList ++ (version.map ("version", ·)).toList

def planBody (mode version : Option String) : Json :=
  .obj (Json.texts (planTexts mode version))

lemma isStrict_texts (fields : List (String × String)) :
    (Json.obj (Json.texts fields)).isStrict = true := by
  induction fields with
  | nil => rfl
  | cons f rest ih => exact ih

lemma make_asksPlan (mode version : Option String) :
    ∃ c, Call.make "POST" Endpoint.plan.path (.json (planBody mode version)) = .ok c ∧
      AsksPlan mode version c := by
  have address : ∃ a, Url.Address.read Endpoint.plan.path = .ok a ∧ a.isAbsolute = false ∧
      a.path?.getD [] = Endpoint.plan.path.toList := ⟨_, rfl, rfl, rfl⟩
  obtain ⟨a, address, relative, path⟩ := address
  have body : (Content.json (planBody mode version)).bytes =
      .ok (Text.Utf8.encode (planBody mode version).dense.toList) :=
    if_pos (isStrict_texts _)
  have asks : AsksPlan mode version ⟨"POST", Endpoint.plan.path.toList,
      Text.Utf8.encode (planBody mode version).dense.toList⟩ := {
    posted := rfl
    endpoint := Endpoint.at?_path .plan
    body := by
      refine ⟨_, _, Json.textOf?_dense (planTexts mode version),
        Json.read_dense (planTexts mode version) bodyLimits (by decide), ?_⟩
      cases mode <;> cases version <;> exact ⟨rfl, .inl rfl⟩ }
  refine ⟨_, ?_, asks⟩
  rw [Call.make, address, body]
  dsimp only
  rw [relative, path]
  rfl

lemma readBody_of_fits {layout : Fields} {body : List UInt8} {text : List Char}
    {given record : List (String × Json)} (decoded : Json.textOf? body = some text)
    (read : Json.read text bodyLimits = .ok (.obj given))
    (fits : FieldType.readFields .usual [.name "body"] (.obj given) layout = .ok record) :
    readBody layout body = .ok record := by
  have some : body ≠ [] := by
    rintro rfl
    cases decoded
    cases read
  rw [readBody, if_neg some, decoded]
  dsimp only
  rw [read]
  dsimp only
  rw [fits]

lemma AsksPlan.readBody {mode version : Option String} {c : Call} (h : AsksPlan mode version c) :
    ∃ record, Service.readBody planFields c.body = .ok record ∧
      PlanOrder.ofRecord record = ⟨mode.getD Mode.nightly.name, version⟩ := by
  obtain ⟨text, fields, decoded, read, modeGiven, versionGiven⟩ := h.body
  have fits : FieldType.readFields .usual [.name "body"] (.obj fields) planFields =
      .ok [("mode", .str (mode.getD Mode.nightly.name)), ("version", version.elim .null .str)] := by
    simp only [planFields, FieldType.readFields, Json.field?, modeGiven]
    rcases versionGiven with given | ⟨rfl, given⟩
    · rw [given]
      cases mode <;> cases version <;> rfl
    · rw [given]
      cases mode <;> rfl
  exact ⟨_, readBody_of_fits decoded read fits, by cases version <;> rfl⟩

def planned : Except Failure Plan → Except Failure Answer
  | .ok plan => .ok (answerWith 200 plan.toJson)
  | .error (.rejected r) => .ok (refusal r)
  | .error e => .error e

lemma run_plan {s : Session} {settings : Settings} (loaded : Settings.load s.env = .ok settings)
    (o : PlanOrder) : (plan o).run s =
      (planned (Plan.make (.word o.mode) o.version settings.image.image s.files.places), s) := by
  rw [plan, run_bind_of_ok (run_state s), run_bind_of_ok (run_loaded loaded)]
  generalize Plan.make (.word o.mode) o.version settings.image.image s.files.places = made
  rcases made with e | p
  · cases e <;> rfl
  · rfl

lemma AsksPlan.answer {s : Session} {settings : Settings} {mode version : Option String} {c : Call}
    (h : AsksPlan mode version c) (loaded : Settings.load s.env = .ok settings) :
    ((Service.answer c).run s).1 =
      planned (Plan.decided settings.image.image mode (Text.strip (version.getD ""))
        s.files.places) := by
  obtain ⟨record, body, order⟩ := h.readBody
  have respond : Service.respond c = plan ⟨mode.getD Mode.nightly.name, version⟩ := by
    simp only [Service.respond, h.endpoint, h.posted, ne_eq, not_true_eq_false, ↓reduceIte,
      Service.withBody, body, order]
  rw [run_answer h.posted, respond, run_plan loaded, Plan.make_eq_decided _ mode version rfl]
  cases created : Request.create (.ofOption mode) version with
  | error r =>
    have refused := Request.refused_of_create created
    have writable : (detail r.report.toJson).Writable s.files.places := refused.writable_detail
    have written := write_of_writable writable 422
    have refusal : refusal r = answerWith 422 (detail r.report.toJson) := by
      rw [Service.refusal, refused.isToolFailure]
      rfl
    rw [Plan.decided_of_refused created, planned, refusal]
    exact written
  | ok request =>
    rw [Plan.decided_of_created created]
    by_cases tag : Text.IsUnicode (request.select settings.image.image).tag s.files.places
    · have written := write_of_writable (Plan.writable_ofRequest tag) 200
      rw [if_pos tag]
      exact written
    · rw [if_neg tag]
      rfl

end Service

/-! ### All ways -/

/-- All ways of planning with a mode and a version come to one plan: its tag is chosen, the command
line prints it as a text or as JSON, and the service answers with the same JSON. -/
structure AllPlan (s : Session) (image : String) (mode version : Option String) (plan : Plan) :
    Prop where
  chosen : selectTag (.ofOption mode) version image s.files.places = .ok plan.selection
  json : ((CommandLine.run (CommandLine.planLine mode version (some .json))).run s).1 =
    .ok { stdout := plan.toJson.compact ++ "\n" }
  text : ∀ form, form = none ∨ form = some .text →
    ((CommandLine.run (CommandLine.planLine mode version form)).run s).1 =
      .ok { stdout := plan.selection.tag ++ "\n" }
  answered : ∀ c, Service.AsksPlan mode version c →
    ((Service.answer c).run s).1 = .ok (Service.answerWith 200 plan.toJson)

/-- All ways of planning with a mode and a version are refused, with one report. -/
structure AllRefuse (s : Session) (image : String) (mode version : Option String) (r : Rejection) :
    Prop where
  chosen : selectTag (.ofOption mode) version image s.files.places = .error (.rejected r)
  told : ∀ form, ((CommandLine.run (CommandLine.planLine mode version form)).run s).1 =
    .ok { status := 2, stderr := r.report.toJson.compact ++ "\n" }
  answered : ∀ c, Service.AsksPlan mode version c →
    ((Service.answer c).run s).1 = .ok (Service.answerWith 422 (Service.detail r.report.toJson))

/-- All ways of planning with a mode and a version fail alike, for a surrogate that stands alone in
the image, or in the version of a release. -/
structure AllFail (s : Session) (image : String) (mode version : Option String) (e : Failure) :
    Prop where
  cause : ∃ request, Request.create (.ofOption mode) version = .ok request ∧
    e = (request.select image).unwritable ∧ ¬(Text.IsUnicode image s.files.places ∧
      (request.mode = .release → Text.IsUnicode request.version s.files.places))
  chosen : selectTag (.ofOption mode) version image s.files.places = .error e
  untold : ∀ form, ((CommandLine.run (CommandLine.planLine mode version form)).run s).1 = .error e
  unanswered : ∀ c, Service.AsksPlan mode version c → ((Service.answer c).run s).1 = .error e

/-- **All ways of planning agree**, for all settings, and for every mode and every version, given
or not: they come to one plan, or they are refused with one report, or they fail alike for a
surrogate that stands alone; and the version decides without the blanks at its ends. -/
theorem plans_agree {s : Session} {settings : Settings}
    (loaded : Settings.load s.env = .ok settings) (mode version : Option String) :
    (∃ c, Service.Call.make "POST" Service.Endpoint.plan.path
        (.json (Service.planBody mode version)) = .ok c ∧ Service.AsksPlan mode version c) ∧
      match Plan.decided settings.image.image mode (Text.strip (version.getD ""))
        s.files.places with
      | .ok plan => AllPlan s settings.image.image mode version plan
      | .error (.rejected r) => AllRefuse s settings.image.image mode version r
      | .error e => AllFail s settings.image.image mode version e := by
  refine ⟨Service.make_asksPlan mode version, ?_⟩
  have chosen : selectTag (.ofOption mode) version settings.image.image s.files.places = _ :=
    Plan.selectTag_eq_decided settings.image.image mode version
  have line := CommandLine.run_planLine loaded mode version
  have called (c : Service.Call) (asks : Service.AsksPlan mode version c) := asks.answer loaded
  cases created : Request.create (.ofOption mode) version with
  | error r =>
    have other := (Request.refused_of_create created).isToolFailure
    simp only [Plan.decided_of_refused created] at chosen line called ⊢
    exact {
      chosen := chosen
      told := fun form => by
        rw [line form, Except.map, CommandLine.told, CommandLine.refusal, other]
        rfl
      answered := fun c asks => by
        rw [called c asks, Service.planned, Service.refusal, other]
        rfl }
  | ok request =>
    simp only [Plan.decided_of_created created] at chosen line called ⊢
    by_cases unicode : Text.IsUnicode (request.select settings.image.image).tag s.files.places
    · simp only [if_pos unicode] at chosen line called ⊢
      exact {
        chosen := chosen
        json := line (some .json)
        text := by rintro _ (rfl | rfl) <;> exact line _
        answered := called }
    · simp only [if_neg unicode] at chosen line called ⊢
      exact {
        cause := ⟨request, created, rfl, (request.isUnicode_tag_iff _).not.mp unicode⟩
        chosen := chosen
        untold := line
        unanswered := called }

/-- A release of a version with blanks around it, and one of blanks alone. -/
theorem plans_agree_padded :
    (∃ settings, Settings.load (Session.provided []).env = .ok settings ∧
        settings.image.image = usualImage) ∧
      AllPlan (.provided []) usualImage (some "release") (some " 0.25.0\u3000")
        ⟨.release, ⟨"deepjavalibrary/djl-spark:0.25.0-cpu", true⟩, [("DJL_VERSION", "0.25.0")]⟩ ∧
      AllRefuse (.provided []) usualImage (some "release") (some "\u3000")
        (.missingVersion anyVersionKey) := by
  have usual : ∃ settings, Settings.load (Session.provided []).env = .ok settings ∧
      settings.image.image = usualImage := ⟨_, rfl, rfl⟩
  obtain ⟨settings, loaded, image⟩ := usual
  have planned := (plans_agree loaded (some "release") (some " 0.25.0\u3000")).2
  have refused := (plans_agree loaded (some "release") (some "\u3000")).2
  rw [image] at planned refused
  exact ⟨⟨settings, loaded, image⟩, planned, refused⟩

/-- A version in which a surrogate stands alone, as a text in JSON can have it. -/
def loneVersion : String :=
  .ofList [Text.Surrogate.ofUnit 0xD800]

/-- A release of such a version is neither planned nor refused. -/
theorem plans_agree_alone :
    Json.read "\"\\ud800\"".toList Service.bodyLimits = .ok (.str loneVersion) ∧
      (∃ settings, Settings.load (Session.provided []).env = .ok settings ∧
        settings.image.image = usualImage) ∧
      (∀ plan, ¬AllPlan (.provided []) usualImage (some "release") (some loneVersion) plan) ∧
      ∀ r, ¬AllRefuse (.provided []) usualImage (some "release") (some loneVersion) r := by
  have failed : selectTag (.ofOption (some "release")) (some loneVersion) usualImage =
      .error (Selection.unwritable ⟨usualImage ++ ":" ++ loneVersion ++ "-cpu", true⟩) := rfl
  refine ⟨rfl, ⟨_, rfl, rfl⟩, fun plan all => ?_, fun r all => ?_⟩
  · cases failed.symm.trans all.chosen
  · cases failed.symm.trans all.chosen

end ImageRelease
