import ImageRelease.Proofs.Session.Lookup
import ImageRelease.Proofs.Session.Telling
import ImageRelease.Proofs.Session.Wheels

/-!
The lines about external steps.

A line about an external step opens with one of three signs, and no other line of the log does:
lines about commands, logins, tags and wheels stand two characters to the right, and headings open
with a bracket. An action is silent if it adds no line about a step, whichever way it ends; actions
in a row are silent if each of them is, and so is all that is done outside of the external steps and
all that is done inside of them.
-/

namespace ImageRelease

open Session Act

/-! ### Lines and their signs -/

/-- A line about an external step, by its first two characters. -/
def isStepLine (text : String) : Bool :=
  ["▶ ", "✔ ", "✗ "].any fun sign => sign.toList.isPrefixOf text.toList

def stepLinesOf (new : List Event) : List (Level × String) :=
  (linesOf new).filter fun line => isStepLine line.2

@[simp] lemma stepLinesOf_append (old new : List Event) :
    stepLinesOf (old ++ new) = stepLinesOf old ++ stepLinesOf new := by
  rw [stepLinesOf, linesOf_append, List.filter_append, stepLinesOf, stepLinesOf]

/-- A text that opens with something else than a sign. -/
def OpensPlain (text : String) : Prop :=
  (text.toList.head?.any fun c => (['▶', '✔', '✗'].contains c).not) = true

instance (text : String) : Decidable (OpensPlain text) :=
  inferInstanceAs (Decidable (_ = true))

lemma opensPlain_iff {text : String} :
    OpensPlain text ↔ ∃ c rest, text.toList = c :: rest ∧ c ∉ ['▶', '✔', '✗'] := by
  rw [OpensPlain]
  cases text.toList <;> simp

lemma OpensPlain.append {text : String} (h : OpensPlain text) (rest : String) :
    OpensPlain (text ++ rest) := by
  obtain ⟨c, more, opens, plain⟩ := opensPlain_iff.mp h
  exact opensPlain_iff.mpr ⟨c, more ++ rest.toList, by rw [String.toList_append, opens]; rfl, plain⟩

lemma OpensPlain.isStepLine {text : String} (h : OpensPlain text) : isStepLine text = false := by
  obtain ⟨c, more, opens, plain⟩ := opensPlain_iff.mp h
  simp only [List.mem_cons, List.not_mem_nil, or_false, not_or] at plain
  simp [ImageRelease.isStepLine, opens, List.isPrefixOf, plain, Ne.symm]

lemma isStepLine_append {sign : String} (h : sign ∈ ["▶ ", "✔ ", "✗ "]) (rest : String) :
    isStepLine (sign ++ rest) = true := by
  rw [isStepLine, List.any_eq_true]
  refine ⟨sign, h, List.isPrefixOf_iff_prefix.mpr ?_⟩
  rw [String.toList_append]
  exact List.prefix_append _ _

lemma stepLinesOf_logged {level : Level} {text : String} (h : OpensPlain text) :
    stepLinesOf [.logged level text] = [] := by
  have line : linesOf [.logged level text] = [(level, text)] := rfl
  rw [stepLinesOf, line, List.filter_cons_of_neg (by rw [h.isStepLine]; exact Bool.false_ne_true),
    List.filter_nil]

lemma opensPlain_indented (rest : String) : OpensPlain ("  " ++ rest) := by
  have blank : OpensPlain "  " := by decide
  exact blank.append rest

lemma stepLinesOf_block (journal : List Event) (r : Runner) (c : Command) (fate : Fate) :
    stepLinesOf (block journal r.lead c fate) = [] := by
  have lead : OpensPlain r.lead := by
    unfold Runner.lead
    split <;> decide
  have shown : stepLinesOf [.logged .info (r.lead ++ redact c.argv (secretsOf journal)),
      .command c fate] = [] := stepLinesOf_logged (lead.append _)
  have told : stepLinesOf (complaint journal c fate) = [] := by
    unfold complaint
    split
    · split
      · rfl
      · refine stepLinesOf_logged ?_
        rw [String.append_assoc, String.append_assoc, String.append_assoc, String.append_assoc]
        exact opensPlain_indented _
    · rfl
  rw [block_eq, stepLinesOf_append, shown, told, List.append_nil]

/-! ### Actions that tell nothing of steps -/

/-- An action that puts no line about an external step into the log. -/
def Act.Silent {σ α : Type} (view : σ → Session) (x : Act σ α) : Prop :=
  ∀ s, ∃ new, (view (x.run s).2).journal = (view s).journal ++ new ∧ stepLinesOf new = []

namespace Act

variable {σ α β : Type} {view : σ → Session}

lemma silent_of_still {x : Act σ α} (h : ∀ s, (view (x.run s).2).journal = (view s).journal) :
    x.Silent view :=
  fun s => ⟨[], by rw [h, List.append_nil], rfl⟩

lemma silent_pure (a : α) : (pure a : Act σ α).Silent view :=
  silent_of_still fun _ => rfl

lemma silent_fail (e : Failure) : (fail e : Act σ α).Silent view :=
  silent_of_still fun _ => rfl

lemma silent_state : (state : Act σ σ).Silent view :=
  silent_of_still fun _ => rfl

lemma silent_ofExcept (r : Except Failure α) : (ofExcept r : Act σ α).Silent view :=
  silent_of_still fun s => by rw [run_ofExcept]

lemma silent_ofRejection (r : Except Rejection α) : (ofRejection r : Act σ α).Silent view :=
  silent_of_still fun s => by rw [run_ofRejection]

lemma Silent.bind {x : Act σ α} {f : α → Act σ β} (hx : x.Silent view)
    (hf : ∀ a, (f a).Silent view) : (x >>= f).Silent view := fun s => by
  obtain ⟨old, journal, none⟩ := hx s
  rcases run_bind_cases x f s with ⟨e, t, h, hb⟩ | ⟨a, t, h, hb⟩
  · rw [h] at journal
    rw [hb]
    exact ⟨old, journal, none⟩
  · rw [h] at journal
    rw [hb]
    obtain ⟨new, journal', none'⟩ := hf a t
    exact ⟨old ++ new, by rw [journal', journal, List.append_assoc],
      by rw [stepLinesOf_append, none, none']; rfl⟩

lemma Silent.onFailure {x : Act σ α} {more : Failure → Act σ Unit} (hx : x.Silent view)
    (hm : ∀ e, (more e).Silent view) : (x.onFailure more).Silent view := fun s => by
  obtain ⟨old, journal, none⟩ := hx s
  rcases h : x.run s with ⟨e | a, t⟩
  · rw [h] at journal
    obtain ⟨new, journal', none'⟩ := hm e t
    refine ⟨old ++ new, ?_, by rw [stepLinesOf_append, none, none']; rfl⟩
    rw [run_onFailure_of_error h]
    rcases hr : (more e).run t with ⟨_ | _, u⟩ <;> rw [hr] at journal' <;>
      exact journal'.trans (by rw [journal, List.append_assoc])
  · rw [h] at journal
    rw [run_onFailure_of_ok h]
    exact ⟨old, journal, none⟩

end Act

lemma silent_log (level : Level) {text : String} (h : OpensPlain text) :
    (log level text).Silent id :=
  fun _ => ⟨[_], rfl, stepLinesOf_logged h⟩

lemma silent_addSecret (secret : String) : (addSecret secret).Silent id := fun s => by
  rw [run_addSecret]
  split
  · exact ⟨[], (List.append_nil _).symm, rfl⟩
  · exact ⟨[_], rfl, rfl⟩

lemma Runner.silent_run (r : Runner) {argv : List String} (ne : argv ≠ []) (cwd : Option String)
    (overrides : Env) (input : Option String) :
    (r.run argv cwd overrides input).Silent id := fun s => by
  rw [r.run_eq ne]
  exact ⟨_, rfl, stepLinesOf_block _ _ _ _⟩

namespace Ecr

variable (r : Runner) (a : Aws)

lemma silent_loginTo (registry : String) : (loginTo r a registry).Silent id := by
  refine (r.silent_run (List.cons_ne_nil _ _) _ _ _).bind fun _ => ?_
  refine (silent_addSecret _).bind fun _ => ?_
  refine (r.silent_run (List.cons_ne_nil _ _) _ _ _).bind fun _ => ?_
  exact (silent_log _ (OpensPlain.append (by decide) _)).bind fun _ => silent_pure _

lemma silent_loginEach (registries : List String) : (loginEach r a registries).Silent id := by
  induction registries with
  | nil => exact silent_pure []
  | cons registry rest ih =>
    exact (silent_loginTo r a registry).bind fun _ => ih.bind fun _ => silent_pure _

end Ecr

namespace WheelBuilder

lemma silent_wheelsIn (dist : Path) : (wheelsIn dist).Silent id := by
  refine silent_state.bind fun s => ?_
  cases s.files.list? dist with
  | ok names => exact silent_pure _
  | error fault => exact silent_fail _

lemma silent_inspect (dist : Path) (name : String) : (inspect dist name).Silent id := by
  have plain : OpensPlain "  Built wheel: " := by decide
  refine silent_state.bind fun s => ?_
  rcases s.files.read? (dist.join name) with fault | _ | bytes
  · exact silent_fail _
  · exact silent_fail _
  · exact (silent_log _ ((((plain.append _).append _).append _).append _)).bind fun _ =>
      silent_pure _

lemma silent_inspectEach (dist : Path) (names : List String) :
    (inspectEach dist names).Silent id := by
  induction names with
  | nil => exact silent_pure []
  | cons name rest ih =>
    exact (silent_inspect dist name).bind fun _ => ih.bind fun _ => silent_pure _

end WheelBuilder

namespace Hub

lemma silent_giveUp {α : Type} (url message : String) :
    (giveUp url message : Act Session α).Silent id :=
  (silent_log _ (OpensPlain.append (by decide) _)).bind fun _ => silent_fail _

lemma silent_receive (url : String) (a : Url.Address) (r : Response) :
    (receive url a r).Silent id := by
  unfold receive
  split
  · exact silent_fail _
  · exact silent_fail _
  · split
    · exact silent_fail _
    · split
      · exact silent_pure _
      · exact silent_giveUp _ _
      · exact silent_fail _
      · exact silent_fail _

lemma silent_ask (url : String) : (ask url).Silent id :=
  fun _ => ⟨[_], rfl, rfl⟩

lemma silent_fetch (url : String) : (fetch url).Silent id := by
  refine (silent_ofExcept _).bind fun a => (silent_ask _).bind fun reply => ?_
  cases reply with
  | noConnection message => exact silent_giveUp _ _
  | fault fault message => exact silent_fail _
  | response r => exact silent_receive _ _ _

lemma silent_exists? (h : Hub) (repository tag : String) :
    (h.exists? repository tag).Silent id := by
  have plain : OpensPlain "  Tag " := by decide
  refine (silent_fetch _).bind fun answer => ?_
  dsimp only
  split
  · exact (silent_log _ ((((plain.append _).append _).append _).append _)).bind fun _ =>
      silent_pure _
  · split
    · exact silent_pure _
    · split
      · exact silent_fail _
      · exact silent_fail _

end Hub

end ImageRelease
