import Mathlib.Data.List.Infix
import ImageRelease.Proofs.Session.Steps

/-!
Going along a plan, up to the first failure.

A move is what reaches beyond the session: a command, or a question to the registry. An action goes
along a plan of moves if its moves are the first ones of the plan, if they are all of it when the
action succeeds, and if nothing is moved after a move that failed. Actions in a row go along their
plans in a row, so a long action is followed part by part.
-/

namespace ImageRelease

inductive Move
  | call (argv : List String) (cwd : Option String)
  | lookup (url : String)
  deriving DecidableEq, Repr

/-- Only a status of zero is success, where what was written is text. -/
def Ending.Succeeded : Ending → Prop
  | .exited status _ _ => status = 0
  | _ => False

/-- The status that a command exited with. -/
def Ending.status? : Ending → Option Int
  | .exited status _ _ => some status
  | .unreadable status _ => some status
  | _ => none

instance (e : Ending) : Decidable e.Succeeded := by
  cases e <;> unfold Ending.Succeeded <;> infer_instance

/-- The registry said that there is no such tag. -/
def Reply.Free : Reply → Prop
  | .response r => r.status = 404
  | _ => False

namespace Event

def move? : Event → Option Move
  | command c _ => some (.call c.argv c.cwd)
  | lookup url _ => some (.lookup url)
  | _ => none

/-- A move that did not go as it should, after which nothing may be done. -/
def Failed : Event → Prop
  | command _ (.started e) => ¬e.Succeeded
  | lookup _ reply => ¬reply.Free
  | _ => False

lemma Failed.isMove {e : Event} (h : e.Failed) : e.move? ≠ none := by
  cases e <;> simp_all [Failed, move?]

end Event

def movesOf (new : List Event) : List Move :=
  new.filterMap Event.move?

@[simp] lemma movesOf_nil : movesOf [] = [] := rfl

@[simp] lemma movesOf_append (old new : List Event) :
    movesOf (old ++ new) = movesOf old ++ movesOf new :=
  List.filterMap_append

lemma movesOf_eq_nil {new : List Event} : movesOf new = [] ↔ ∀ e ∈ new, e.move? = none :=
  List.filterMap_eq_nil_iff

/-- The commands that were started, with their ends. -/
def callsOf (new : List Event) : List (Command × Ending) :=
  new.filterMap Event.call?

@[simp] lemma callsOf_append (old new : List Event) :
    callsOf (old ++ new) = callsOf old ++ callsOf new :=
  List.filterMap_append

lemma callsOf_of_quiet {new : List Event} (quiet : movesOf new = []) : callsOf new = [] := by
  refine List.filterMap_eq_nil_iff.mpr fun e he => ?_
  have hq := movesOf_eq_nil.mp quiet e he
  cases e <;> simp_all [Event.move?, Event.call?]

lemma Session.Leads.of_quiet {m : Manner} {s t : Session} {new : List Event}
    (h : s.Leads m new t) (quiet : movesOf new = []) :
    t = { s with journal := s.journal ++ new } := by
  induction h with
  | nil => simp
  | @cons s t u e new step _ ih =>
    have hq := movesOf_eq_nil.mp quiet
    rw [ih (movesOf_eq_nil.mpr fun f hf => hq f (List.mem_cons_of_mem _ hf))]
    cases step with
    | logged => simp [Session.noted]
    | masked => simp [Session.noted]
    | rehearsed c => cases hq _ List.mem_cons_self
    | started c => cases hq _ List.mem_cons_self
    | asked url => cases hq _ List.mem_cons_self

/-- In a path that only makes calls, each call is a command that was started, outside of a dry
run. -/
lemma Session.Leads.startedIn {m : Manner} {s t : Session} {new : List Event}
    (h : s.Leads m new t) (hc : ∀ url, .lookup url ∉ movesOf new) :
    startedIn new = if m.dryRun then 0 else (movesOf new).length := by
  induction h with
  | nil => simp [Session.startedIn]
  | @cons s t u e new step _ ih =>
    have hn : ∀ url, .lookup url ∉ movesOf new := fun url hm => by
      refine hc url ?_
      rw [← List.singleton_append, movesOf_append]
      exact List.mem_append_right _ hm
    cases step with
    | logged => exact ih hn
    | masked => exact ih hn
    | rehearsed c dry =>
      have := ih hn
      rw [dry] at this ⊢
      exact this
    | started c earnest =>
      have := ih hn
      rw [earnest] at this ⊢
      simpa [Session.startedIn, movesOf, Event.call?, Event.move?] using this
    | asked url => exact absurd (by simp [movesOf, Event.move?]) (hc url)

/-- Events along a plan, of an action that succeeded or did not. -/
structure Along (plan : List Move) (new : List Event) (ok : Bool) : Prop where
  moves : movesOf new <+: plan
  whole : ok = true → movesOf new = plan
  last : new.Pairwise fun e f => e.Failed → f.move? = none
  stopped : ∀ e ∈ new, e.Failed → ok = false

namespace Along

variable {plan plan' : List Move} {old new : List Event} {ok : Bool}

lemma of_quiet (h : movesOf new = []) (ok : Bool) : Along [] new ok := by
  have quiet := movesOf_eq_nil.mp h
  refine ⟨by rw [h], fun _ => h, ?_, fun e he hf => absurd (quiet e he) hf.isMove⟩
  exact List.pairwise_of_forall_mem_list fun e _ f hf _ => quiet f hf

lemma single {e : Event} {move : Move} (h : e.move? = some move) (hf : e.Failed → ok = false) :
    Along [move] [e] ok := by
  have hm : movesOf [e] = [move] := by simp [movesOf, h]
  refine ⟨by rw [hm], fun _ => hm, List.pairwise_singleton _ _, ?_⟩
  intro f hmem
  rw [List.mem_singleton.mp hmem]
  exact hf

lemma not_failed (h : Along plan new true) : ∀ e ∈ new, ¬e.Failed :=
  fun e he hf => Bool.noConfusion (h.stopped e he hf)

lemma append (h : Along plan old true) (h' : Along plan' new ok) :
    Along (plan ++ plan') (old ++ new) ok where
  moves := by
    rw [movesOf_append, h.whole rfl]
    exact (List.prefix_append_right_inj _).mpr h'.moves
  whole hok := by rw [movesOf_append, h.whole rfl, h'.whole hok]
  last := List.pairwise_append.mpr
    ⟨h.last, h'.last, fun e he _ _ hf => absurd hf (h.not_failed e he)⟩
  stopped e he hf := by
    rcases List.mem_append.mp he with he | he
    · exact absurd hf (h.not_failed e he)
    · exact h'.stopped e he hf

lemma cut (h : Along plan new false) (more : List Move) : Along (plan ++ more) new false :=
  ⟨h.moves.trans (List.prefix_append _ _), nofun, h.last, h.stopped⟩

lemma append_quiet (h : Along plan old ok) (hq : movesOf new = []) :
    Along plan (old ++ new) ok where
  moves := by rw [movesOf_append, hq, List.append_nil]; exact h.moves
  whole hok := by rw [movesOf_append, hq, List.append_nil]; exact h.whole hok
  last := by
    have quiet := movesOf_eq_nil.mp hq
    refine List.pairwise_append.mpr ⟨h.last, ?_, fun _ _ f hf _ => quiet f hf⟩
    exact List.pairwise_of_forall_mem_list fun _ _ f hf _ => quiet f hf
  stopped e he hf := by
    rcases List.mem_append.mp he with he | he
    · exact h.stopped e he hf
    · exact absurd (movesOf_eq_nil.mp hq e he) hf.isMove

lemma after_failed {e : Event} {new : List Event} (h : Along plan (old ++ e :: new) ok)
    (hf : e.Failed) : movesOf new = [] := by
  have last := (List.pairwise_append.mp h.last).2.1
  exact movesOf_eq_nil.mpr fun f hmem => (List.pairwise_cons.mp last).1 f hmem hf

lemma quiet (h : Along [] new ok) : movesOf new = [] :=
  List.prefix_nil.mp h.moves

end Along

/-! ### Actions along plans -/

/-- The steps of a session go along a plan in an action that starts here. -/
def Act.FollowsFrom {σ α : Type} (m : Manner) (view : σ → Session) (plan : List Move)
    (x : Act σ α) (s : σ) : Prop :=
  ∃ new, (view s).Leads m new (view (x.run s).2) ∧ Along plan new (x.run s).1.isOk

/-- An action goes along a plan wherever it starts. -/
def Act.Follows {σ α : Type} (m : Manner) (view : σ → Session) (plan : List Move)
    (x : Act σ α) : Prop :=
  ∀ s, x.FollowsFrom m view plan s

namespace Act

variable {σ α β : Type} {m : Manner} {view : σ → Session} {plan plan' : List Move}

lemma FollowsFrom.ok {x : Act σ α} {s t : σ} {a : α} (hx : x.FollowsFrom m view plan s)
    (h : x.run s = (.ok a, t)) :
    ∃ new, (view s).Leads m new (view t) ∧ Along plan new true := by
  obtain ⟨new, lead, along⟩ := hx
  rw [h] at lead along
  exact ⟨new, lead, along⟩

lemma FollowsFrom.error {x : Act σ α} {s t : σ} {e : Failure} (hx : x.FollowsFrom m view plan s)
    (h : x.run s = (.error e, t)) :
    ∃ new, (view s).Leads m new (view t) ∧ Along plan new false := by
  obtain ⟨new, lead, along⟩ := hx
  rw [h] at lead along
  exact ⟨new, lead, along⟩

lemma follows_of_still {x : Act σ α} (h : ∀ s, view (x.run s).2 = view s) :
    x.Follows m view [] := fun s => by
  refine ⟨[], ?_, .of_quiet rfl _⟩
  rw [h s]
  exact .nil _

lemma follows_pure (a : α) : (pure a : Act σ α).Follows m view [] :=
  follows_of_still fun _ => rfl

lemma follows_fail (e : Failure) : (fail e : Act σ α).Follows m view [] :=
  follows_of_still fun _ => rfl

lemma follows_state : (state : Act σ σ).Follows m view [] :=
  follows_of_still fun _ => rfl

lemma follows_ofExcept (r : Except Failure α) : (ofExcept r : Act σ α).Follows m view [] :=
  follows_of_still fun s => by rw [run_ofExcept]

lemma follows_ofRejection (r : Except Rejection α) :
    (ofRejection r : Act σ α).Follows m view [] :=
  follows_of_still fun s => by rw [run_ofRejection]

lemma FollowsFrom.bind {x : Act σ α} {f : α → Act σ β} {s : σ}
    (hx : x.FollowsFrom m view plan s)
    (hf : ∀ a t new, x.run s = (.ok a, t) → (view s).Leads m new (view t) → Along plan new true →
      (f a).FollowsFrom m view plan' t) :
    (x >>= f).FollowsFrom m view (plan ++ plan') s := by
  unfold FollowsFrom
  obtain ⟨old, lead, along⟩ := hx
  rcases run_bind_cases x f s with ⟨e, t, h, hb⟩ | ⟨a, t, h, hb⟩
  · rw [hb]
    rw [h] at lead along
    exact ⟨old, lead, along.cut _⟩
  · rw [hb]
    rw [h] at lead along
    obtain ⟨new, lead', along'⟩ := hf a t old h lead along
    exact ⟨old ++ new, lead.append lead', along.append along'⟩

lemma FollowsFrom.after {x : Act σ α} {f : α → Act σ β} {s : σ} (hx : x.FollowsFrom m view [] s)
    (hf : ∀ a t new, x.run s = (.ok a, t) → (view s).Leads m new (view t) → movesOf new = [] →
      (f a).FollowsFrom m view plan t) : (x >>= f).FollowsFrom m view plan s := by
  have both := hx.bind fun a t new h lead along => hf a t new h lead along.quiet
  rwa [List.nil_append] at both

lemma FollowsFrom.before {x : Act σ α} {f : α → Act σ β} {s : σ}
    (hx : x.FollowsFrom m view plan s) (hf : ∀ a, (f a).Follows m view []) :
    (x >>= f).FollowsFrom m view plan s := by
  rw [← List.append_nil plan]
  exact hx.bind fun a t _ _ _ _ => hf a t

lemma Follows.bind {x : Act σ α} {f : α → Act σ β} (hx : x.Follows m view plan)
    (hf : ∀ a, (f a).Follows m view plan') : (x >>= f).Follows m view (plan ++ plan') :=
  fun s => (hx s).bind fun a t _ _ _ _ => hf a t

lemma Follows.after {x : Act σ α} {f : α → Act σ β} (hx : x.Follows m view [])
    (hf : ∀ a, (f a).Follows m view plan) : (x >>= f).Follows m view plan :=
  hx.bind hf

lemma Follows.before {x : Act σ α} {f : α → Act σ β} (hx : x.Follows m view plan)
    (hf : ∀ a, (f a).Follows m view []) : (x >>= f).Follows m view plan :=
  fun s => (hx s).before hf

lemma onFailure_error {x : Act σ α} {more : Failure → Act σ Unit} {s t : σ} {e : Failure}
    (hm : ∀ e, (more e).Follows m view []) (h : x.run s = (.error e, t)) :
    ∃ e' u new, (x.onFailure more).run s = (.error e', u) ∧ (view t).Leads m new (view u) ∧
      movesOf new = [] := by
  obtain ⟨new, lead, along⟩ := hm e t
  rw [run_onFailure_of_error h]
  rcases hr : (more e).run t with ⟨_ | _, u⟩ <;> rw [hr] at lead <;>
    exact ⟨_, u, new, rfl, lead, along.quiet⟩

lemma FollowsFrom.onFailure {x : Act σ α} {more : Failure → Act σ Unit} {s : σ}
    (hx : x.FollowsFrom m view plan s) (hm : ∀ e, (more e).Follows m view []) :
    (x.onFailure more).FollowsFrom m view plan s := by
  unfold FollowsFrom
  obtain ⟨old, lead, along⟩ := hx
  rcases h : x.run s with ⟨e | a, t⟩
  · obtain ⟨e', u, new, hr, lead', quiet⟩ := onFailure_error hm h
    rw [hr]
    rw [h] at lead along
    exact ⟨old ++ new, lead.append lead', along.append_quiet quiet⟩
  · rw [run_onFailure_of_ok h]
    rw [h] at lead along
    exact ⟨old, lead, along⟩

lemma Follows.onFailure {x : Act σ α} {more : Failure → Act σ Unit} (hx : x.Follows m view plan)
    (hm : ∀ e, (more e).Follows m view []) : (x.onFailure more).Follows m view plan :=
  fun s => (hx s).onFailure hm

end Act

/-! ### Failing by a move -/

/-- An action goes along a plan, and it fails for no other reason than its moves: some of the plan
is left out, or a move failed. -/
def Act.Thorough {σ α : Type} (m : Manner) (view : σ → Session) (plan : List Move)
    (x : Act σ α) (s : σ) : Prop :=
  ∃ new, (view s).Leads m new (view (x.run s).2) ∧ Along plan new (x.run s).1.isOk ∧
    ((x.run s).1.isOk = false → movesOf new ≠ plan ∨ ∃ e ∈ new, e.Failed)

namespace Act

variable {σ α β : Type} {m : Manner} {view : σ → Session} {plan plan' : List Move}

lemma Thorough.follows {x : Act σ α} {s : σ} (h : x.Thorough m view plan s) :
    x.FollowsFrom m view plan s := by
  obtain ⟨new, lead, along, -⟩ := h
  exact ⟨new, lead, along⟩

/-- Whatever stops the first part, the moves of the second one are left out. -/
lemma FollowsFrom.thorough {x : Act σ α} {f : α → Act σ β} {s : σ}
    (hx : x.FollowsFrom m view plan s) (ne : plan' ≠ [])
    (hf : ∀ a t new, x.run s = (.ok a, t) → (view s).Leads m new (view t) → Along plan new true →
      (f a).Thorough m view plan' t) :
    (x >>= f).Thorough m view (plan ++ plan') s := by
  unfold Thorough
  obtain ⟨old, lead, along⟩ := hx
  rcases run_bind_cases x f s with ⟨e, t, h, hb⟩ | ⟨a, t, h, hb⟩
  · rw [hb]
    rw [h] at lead along
    refine ⟨old, lead, along.cut _, fun _ => .inl fun hm => ne ?_⟩
    have short := along.moves.length_le
    rw [hm, List.length_append] at short
    exact List.eq_nil_of_length_eq_zero (by omega)
  · rw [hb]
    rw [h] at lead along
    obtain ⟨new, lead', along', reason⟩ := hf a t old h lead along
    refine ⟨old ++ new, lead.append lead', along.append along', fun hok => ?_⟩
    rcases reason hok with left | ⟨e, he, failed⟩
    · refine .inl fun hm => left ?_
      rw [movesOf_append, along.whole rfl] at hm
      exact List.append_cancel_left hm
    · exact .inr ⟨e, List.mem_append_right _ he, failed⟩

lemma FollowsFrom.thorough_after {x : Act σ α} {f : α → Act σ β} {s : σ}
    (hx : x.FollowsFrom m view [] s) (ne : plan ≠ [])
    (hf : ∀ a t new, x.run s = (.ok a, t) → (view s).Leads m new (view t) → movesOf new = [] →
      (f a).Thorough m view plan t) :
    (x >>= f).Thorough m view plan s := by
  have both := hx.thorough ne fun a t new h lead along => hf a t new h lead along.quiet
  rwa [List.nil_append] at both

lemma Thorough.before {x : Act σ α} {f : α → Act σ β} {s : σ} (hx : x.Thorough m view plan s)
    (hf : ∀ a, (f a).Follows m view [])
    (sure : ∀ a t new, x.run s = (.ok a, t) → (view s).Leads m new (view t) →
      ((f a).run t).1.isOk = true) :
    (x >>= f).Thorough m view plan s := by
  unfold Thorough
  obtain ⟨old, lead, along, reason⟩ := hx
  rcases run_bind_cases x f s with ⟨e, t, h, hb⟩ | ⟨a, t, h, hb⟩
  · rw [hb]
    rw [h] at lead along reason
    exact ⟨old, lead, along, reason⟩
  · rw [hb]
    rw [h] at lead along
    obtain ⟨new, lead', along'⟩ := hf a t
    have ok := sure a t old h lead
    rw [ok] at along' ⊢
    refine ⟨old ++ new, lead.append lead', ?_, nofun⟩
    exact along.append_quiet along'.quiet

lemma Thorough.onFailure {x : Act σ α} {more : Failure → Act σ Unit} {s : σ}
    (hx : x.Thorough m view plan s) (hm : ∀ e, (more e).Follows m view []) :
    (x.onFailure more).Thorough m view plan s := by
  unfold Thorough
  obtain ⟨old, lead, along, reason⟩ := hx
  rcases h : x.run s with ⟨e | a, t⟩
  · obtain ⟨e', u, new, hr, lead', quiet⟩ := onFailure_error hm h
    rw [hr]
    rw [h] at lead along reason
    refine ⟨old ++ new, lead.append lead', along.append_quiet quiet, fun _ => ?_⟩
    rw [movesOf_append, quiet, List.append_nil]
    exact (reason rfl).imp_right fun ⟨f, hf, failed⟩ => ⟨f, List.mem_append_left _ hf, failed⟩
  · rw [run_onFailure_of_ok h]
    rw [h] at lead along
    exact ⟨old, lead, along, nofun⟩

end Act

end ImageRelease
