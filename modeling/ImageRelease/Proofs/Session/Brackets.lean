import ImageRelease.Proofs.Session.StepLines

/-!
External steps, from the line that opens them to the line that closes them.

A `Bracket` is an external step in the session in which it begins. What its body does there, and
whether a failure leaves it, is settled by that session, and so is the line that closes the step. An
action logs well if the lines about steps that it leaves are those of brackets that lie on its way,
one after another; if no bracket comes after one that a failure left; and if the action then fails,
with that failure where the clock is sound. Actions in a row log well if each of them does.
-/

namespace ImageRelease

open Session Act

/-- A step beyond the session: its name in the log, and what is done in it. -/
structure ExternalStep where
  {Result : Type}
  name : String
  body : Act Session Result

/-- An external step in the session in which it begins. -/
structure Bracket where
  step : ExternalStep
  before : Session

namespace Bracket

variable (b : Bracket)

/-- The session in which the body begins, once the step is announced. -/
def start : Session :=
  b.before.noted (.logged .info ("▶ " ++ b.step.name ++ " — started"))

/-- The session that the body comes to. -/
def reached : Session :=
  (b.step.body.run b.start).2

/-- The failure that leaves the body, if one does. -/
def left : Option Failure :=
  match (b.step.body.run b.start).1 with
  | .ok _ => none
  | .error e => some e

/-- The time of the body in milliseconds, as it is told. -/
def time : String :=
  Number.wholeText (millisecondsSince b.start.clock b.reached.clock)

/-- The line that closes the step. -/
def closing : Level × String :=
  match b.left with
  | none => (.info, "✔ " ++ b.step.name ++ " — completed in " ++ b.time ++ " ms")
  | some _ => (.error, "✗ " ++ b.step.name ++ " — failed after " ++ b.time ++ " ms")

/-- The session in which the step is closed. -/
def after : Session :=
  b.reached.noted (.logged b.closing.1 b.closing.2)

def lines : List (Level × String) :=
  [(.info, "▶ " ++ b.step.name ++ " — started"), b.closing]

/-- The step lies on the way from one session to another by these events. -/
def Within (m : Manner) (s : Session) (new : List Event) (t : Session) : Prop :=
  ∃ front inner back, new = front ++ inner ++ back ∧
    s.Leads m front b.before ∧ b.before.Leads m inner b.after ∧ b.after.Leads m back t

lemma left_eq_some {e : Failure} :
    b.left = some e ↔ (b.step.body.run b.start).1 = .error e := by
  unfold left
  cases (b.step.body.run b.start).1 <;> simp

lemma run_timed :
    (timed b.step.name b.step.body).run b.before = ((b.step.body.run b.start).1, b.after) := by
  unfold timed
  rw [run_bind_of_ok (run_info _ b.before), run_bind_of_ok (run_state _)]
  change ((b.step.body.onFailure _) >>= _).run b.start = _
  rcases h : b.step.body.run b.start with ⟨e | a, t⟩
  · have failed : b.left = some e := b.left_eq_some.mpr (by rw [h])
    have after : b.after = t.noted (.logged .error ("✗ " ++ b.step.name ++ " — failed after " ++
        Number.wholeText (millisecondsSince b.start.clock t.clock) ++ " ms")) := by
      simp only [Bracket.after, closing, failed, time, reached, h]
    rw [after]
    exact run_bind_of_error (run_onFailure_of_error h)
  · have passed : b.left = none := by rw [left, h]
    have after : b.after = t.noted (.logged .info ("✔ " ++ b.step.name ++ " — completed in " ++
        Number.wholeText (millisecondsSince b.start.clock t.clock) ++ " ms")) := by
      simp only [Bracket.after, closing, passed, time, reached, h]
    rw [after]
    exact run_bind_of_ok (run_onFailure_of_ok h)

lemma closing_opens :
    ∃ rest, b.closing.2 = (if b.left.isSome then "✗ " else "✔ ") ++ rest := by
  unfold closing
  cases b.left with
  | none => exact ⟨b.step.name ++ (" — completed in " ++ (b.time ++ " ms")), by
      simp only [String.append_assoc]; rfl⟩
  | some e => exact ⟨b.step.name ++ (" — failed after " ++ (b.time ++ " ms")), by
      simp only [String.append_assoc]; rfl⟩

lemma isStepLine_closing : isStepLine b.closing.2 = true := by
  obtain ⟨rest, text⟩ := b.closing_opens
  rw [text]
  split <;> exact isStepLine_append (by decide) _

/-- The sign of a line about a step that a failure left. -/
def failSign : List Char := ['✗', ' ']

lemma not_failSign {sign : String} (h : sign ∈ ["▶ ", "✔ "]) (rest : String) :
    ¬failSign <+: (sign ++ rest).toList := by
  intro hp
  rw [String.toList_append] at hp
  rcases List.mem_cons.mp h with rfl | h
  · exact absurd (List.cons_prefix_cons.mp hp).1 (by decide)
  · rw [List.mem_singleton.mp h] at hp
    exact absurd (List.cons_prefix_cons.mp hp).1 (by decide)

lemma failSign_closing : failSign <+: b.closing.2.toList ↔ b.left.isSome = true := by
  obtain ⟨rest, text⟩ := b.closing_opens
  rw [text]
  split
  · case isTrue left =>
    rw [String.toList_append]
    exact ⟨fun _ => left, fun _ => List.prefix_append _ _⟩
  · case isFalse passed =>
    exact ⟨fun sign => absurd sign (not_failSign (by decide) _), fun left => absurd left passed⟩

/-- Its two lines are all that a step says of steps, if its body says nothing of them. -/
lemma stepLinesOf_inner (h : b.step.body.Silent id) {inner : List Event}
    (journal : b.after.journal = b.before.journal ++ inner) : stepLinesOf inner = b.lines := by
  obtain ⟨told, grown, none⟩ := h b.start
  have events : b.before.journal ++ inner = b.before.journal ++
      ([.logged .info ("▶ " ++ b.step.name ++ " — started")] ++ told ++
        [.logged b.closing.1 b.closing.2]) := by
    rw [← journal, ← List.append_assoc, ← List.append_assoc]
    exact congrArg (· ++ _) grown
  have opening : isStepLine ("▶ " ++ b.step.name ++ " — started") = true := by
    rw [String.append_assoc]
    exact isStepLine_append (by decide) _
  have first : stepLinesOf [.logged .info ("▶ " ++ b.step.name ++ " — started")] =
      [(.info, "▶ " ++ b.step.name ++ " — started")] := List.filter_cons_of_pos opening
  have last : stepLinesOf [.logged b.closing.1 b.closing.2] = [b.closing] :=
    List.filter_cons_of_pos b.isStepLine_closing
  rw [List.append_cancel_left events, stepLinesOf_append, stepLinesOf_append, none, first, last]
  rfl

end Bracket

/-! ### Steps one after another -/

/-- What comes of an action that logs well: the brackets on its way, and how it ends. -/
structure Bracketed {α : Type} (m : Manner) (K : ExternalStep → Prop) (s : Session)
    (new : List Event) (t : Session) (steps : List Bracket) (r : Except Failure α) : Prop where
  lines : stepLinesOf new = steps.flatMap Bracket.lines
  known : ∀ b ∈ steps, K b.step
  within : ∀ b ∈ steps, b.Within m s new t
  last : steps.Pairwise fun b _ => b.left = none
  stopped : ∀ b ∈ steps, ∀ e, b.left = some e → ∃ e', r = .error e' ∧ (s.Timely → e' = e)

namespace Bracketed

variable {α β : Type} {m : Manner} {K : ExternalStep → Prop} {s t u : Session}
  {old new : List Event} {steps more : List Bracket} {r : Except Failure α}

lemma none (h : stepLinesOf new = []) : Bracketed m K s new t [] r :=
  ⟨h, List.forall_mem_nil _, List.forall_mem_nil _, .nil, List.forall_mem_nil _⟩

lemma left_eq_none {a : α} (h : Bracketed m K s new t steps (.ok a : Except Failure α))
    {b : Bracket} (hb : b ∈ steps) : b.left = Option.none := by
  cases left : b.left with
  | none => rfl
  | some e =>
    obtain ⟨e', ended, -⟩ := h.stopped b hb e left
    cases ended

/-- A line about a step that a failure left is the last one about steps. -/
lemma failSign_last {before after : List (Level × String)} {line : Level × String}
    (last : steps.Pairwise fun b _ => b.left = Option.none)
    (parts : steps.flatMap Bracket.lines = before ++ line :: after)
    (sign : Bracket.failSign <+: line.2.toList) :
    after = [] ∧ ∃ b, steps.getLast? = some b ∧ line = b.closing ∧ b.left.isSome = true := by
  induction steps generalizing before with
  | nil => exact absurd parts.symm (List.append_ne_nil_of_right_ne_nil _ (List.cons_ne_nil _ _))
  | cons b rest ih =>
    obtain ⟨first, others⟩ := List.pairwise_cons.mp last
    rw [List.flatMap_cons, Bracket.lines, List.cons_append, List.singleton_append] at parts
    rcases before with _ | ⟨opening, _ | ⟨closing, before⟩⟩
    · obtain ⟨rfl, -⟩ := List.cons.inj parts
      rw [String.append_assoc] at sign
      exact absurd sign (Bracket.not_failSign (by decide) _)
    · obtain ⟨-, parts⟩ := List.cons.inj parts
      obtain ⟨rfl, behind⟩ := List.cons.inj parts
      have left := b.failSign_closing.mp sign
      rcases rest with _ | ⟨c, rest⟩
      · exact ⟨behind.symm, b, rfl, rfl, left⟩
      · rw [first c List.mem_cons_self] at left
        cases left
    · obtain ⟨-, parts⟩ := List.cons.inj parts
      obtain ⟨-, parts⟩ := List.cons.inj parts
      obtain ⟨none, c, hc, same, left⟩ := ih others parts
      refine ⟨none, c, ?_, same, left⟩
      rw [List.getLast?_cons, hc]
      rfl

lemma append {a : β} (h : Bracketed m K s old t steps (.ok a : Except Failure β))
    (h' : Bracketed m K t new u more r) (lead : s.Leads m old t) (lead' : t.Leads m new u) :
    Bracketed m K s (old ++ new) u (steps ++ more) r where
  lines := by rw [stepLinesOf_append, h.lines, h'.lines, List.flatMap_append]
  known := List.forall_mem_append.mpr ⟨h.known, h'.known⟩
  within b hb := by
    rcases List.mem_append.mp hb with hb | hb
    · obtain ⟨front, inner, back, rfl, opens, inside, closes⟩ := h.within b hb
      exact ⟨front, inner, back ++ new, List.append_assoc _ _ _, opens, inside,
        closes.append lead'⟩
    · obtain ⟨front, inner, back, rfl, opens, inside, closes⟩ := h'.within b hb
      exact ⟨old ++ front, inner, back, by simp only [List.append_assoc], lead.append opens, inside,
        closes⟩
  last := List.pairwise_append.mpr ⟨h.last, h'.last, fun b hb _ _ => h.left_eq_none hb⟩
  stopped b hb e left := by
    rcases List.mem_append.mp hb with hb | hb
    · rw [h.left_eq_none hb] at left
      cases left
    · obtain ⟨e', ended, same⟩ := h'.stopped b hb e left
      exact ⟨e', ended, fun timely => same (lead.timely timely)⟩

lemma append_silent {r' : Except Failure β} (h : Bracketed m K s old t steps r)
    (lead : t.Leads m new u) (silent : stepLinesOf new = [])
    (ends : ∀ e, r = .error e → ∃ e', r' = .error e' ∧ (s.Timely → e' = e)) :
    Bracketed m K s (old ++ new) u steps r' where
  lines := by rw [stepLinesOf_append, silent, List.append_nil, h.lines]
  known := h.known
  within b hb := by
    obtain ⟨front, inner, back, rfl, opens, inside, closes⟩ := h.within b hb
    exact ⟨front, inner, back ++ new, List.append_assoc _ _ _, opens, inside, closes.append lead⟩
  last := h.last
  stopped b hb e left := by
    obtain ⟨e', ended, same⟩ := h.stopped b hb e left
    obtain ⟨e'', ended', same'⟩ := ends e' ended
    exact ⟨e'', ended', fun timely => (same' timely).trans (same timely)⟩

end Bracketed

/-! ### Actions that log well -/

/-- An action that starts here logs well: the lines about steps that it leaves are those of
brackets. -/
def Act.Logs {σ α : Type} (m : Manner) (K : ExternalStep → Prop) (view : σ → Session)
    (x : Act σ α) (s : σ) : Prop :=
  ∃ new steps, (view s).Leads m new (view (x.run s).2) ∧
    Bracketed m K (view s) new (view (x.run s).2) steps (x.run s).1

namespace Act

variable {σ α β : Type} {m : Manner} {K : ExternalStep → Prop} {view : σ → Session}
  {plan : List Move} {s : σ}

/-- The events on the way are the same ones, whichever way they are seen. -/
lemma Silent.of_leads {x : Act σ α} (silent : x.Silent view) {new : List Event}
    (lead : (view s).Leads m new (view (x.run s).2)) : stepLinesOf new = [] := by
  obtain ⟨told, journal, none⟩ := silent s
  rwa [List.append_cancel_left (journal.symm.trans lead.journal)] at none

lemma Silent.logs {x : Act σ α} (silent : x.Silent view) (follows : x.FollowsFrom m view plan s) :
    x.Logs m K view s := by
  obtain ⟨new, lead, -⟩ := follows
  exact ⟨new, [], lead, .none (silent.of_leads lead)⟩

/-- What goes on where an action succeeded logs well, and so does the whole. -/
lemma Logs.bind {x : Act σ α} {f : α → Act σ β} (hx : x.Logs m K view s)
    (hf : ∀ a t, x.run s = (.ok a, t) → (f a).Logs m K view t) : (x >>= f).Logs m K view s := by
  unfold Logs
  obtain ⟨old, steps, lead, bracketed⟩ := hx
  rcases run_bind_cases x f s with ⟨e, t, h, hb⟩ | ⟨a, t, h, hb⟩
  · rw [hb]
    rw [h] at lead bracketed
    refine ⟨old, steps, lead, ?_⟩
    rw [← List.append_nil old]
    exact bracketed.append_silent (.nil _) rfl
      fun e' ended => ⟨e', by cases ended; rfl, fun _ => rfl⟩
  · rw [hb]
    rw [h] at lead bracketed
    obtain ⟨new, more, lead', bracketed'⟩ := hf a t h
    exact ⟨old ++ new, steps ++ more, lead.append lead', bracketed.append bracketed' lead lead'⟩

/-- What is done about a failure tells nothing of steps, and it fails only where the clock is not
sound. -/
lemma Logs.onFailure {x : Act σ α} {more : Failure → Act σ Unit} (hx : x.Logs m K view s)
    (follows : ∀ e, (more e).Follows m view []) (silent : ∀ e, (more e).Silent view)
    (sure : (view s).Timely → ∀ e t, (view s).MayShow (view t).clock →
      ((more e).run t).1.isOk = true) : (x.onFailure more).Logs m K view s := by
  unfold Logs
  obtain ⟨old, steps, lead, bracketed⟩ := hx
  rcases h : x.run s with ⟨e | a, t⟩
  · rw [h] at lead bracketed
    obtain ⟨new, lead', -⟩ := follows e t
    have told := (silent e).of_leads lead'
    have fine (timely : (view s).Timely) : ((more e).run t).1.isOk = true :=
      sure timely e t (lead.mayShow (mayShow_clock _))
    rw [run_onFailure_of_error h]
    rcases hr : (more e).run t with ⟨e' | done, u⟩
    · rw [hr] at lead' fine
      exact ⟨old ++ new, steps, lead.append lead', bracketed.append_silent lead' told
        fun _ _ => ⟨e', rfl, fun timely => absurd (fine timely) Bool.false_ne_true⟩⟩
    · rw [hr] at lead'
      exact ⟨old ++ new, steps, lead.append lead', bracketed.append_silent lead' told
        fun e' ended => ⟨e', by cases ended; rfl, fun _ => rfl⟩⟩
  · rw [h] at lead bracketed
    rw [run_onFailure_of_ok h]
    exact ⟨old, steps, lead, bracketed⟩

end Act

lemma logs_timed {α : Type} {m : Manner} {K : ExternalStep → Prop} {plan : List Move}
    {name : String} {body : Act Session α} (known : K ⟨name, body⟩) (silent : body.Silent id)
    {s : Session} (follows : (timed name body).FollowsFrom m id plan s) :
    (timed name body).Logs m K id s := by
  let b : Bracket := ⟨⟨name, body⟩, s⟩
  obtain ⟨new, lead, -⟩ := follows
  have run : (timed name body).run s = ((body.run b.start).1, b.after) := b.run_timed
  unfold Act.Logs
  rw [run] at lead ⊢
  refine ⟨new, [b], lead, ?_, ?_, ?_, List.pairwise_singleton _ _, ?_⟩
  · rw [b.stepLinesOf_inner silent lead.journal, List.flatMap_singleton]
  · exact List.forall_mem_singleton.mpr known
  · exact List.forall_mem_singleton.mpr
      ⟨[], new, [], (List.append_nil _).symm, .nil s, lead, .nil _⟩
  · exact List.forall_mem_singleton.mpr fun e left =>
      ⟨e, b.left_eq_some.mp left, fun _ => rfl⟩

end ImageRelease
