import Mathlib.Data.List.Forall2
import ImageRelease.Proofs.Masking
import ImageRelease.Proofs.Session.Twins

/-!
What two sessions tell.

Sessions that go on together reach out in the same way: `Paired.outward` compares their commands
and questions one by one. What they say in lines depends on the values that they mask. Two lists of
values agree if they mask alike whatever none of the given values stands in, and by `Paired.lines`
sessions whose lists agreed at first tell the same lines, as long as no command shows such a value.
-/

namespace ImageRelease

open Session Act

/-! ### Moves one by one -/

/-- Two moves that are alike. -/
inductive Event.Alike (R : Command → Command → Prop) : Event → Event → Prop
  | command {c d : Command} (argv : c.argv = d.argv) (h : R c d) (fate : Fate) :
      Event.Alike R (.command c fate) (.command d fate)
  | lookup (url : String) (reply : Reply) : Event.Alike R (.lookup url reply) (.lookup url reply)

/-- What reaches beyond the session. -/
def outward (new : List Event) : List Event :=
  new.filter fun e => e.move?.isSome

def linesOf (new : List Event) : List (Level × String) :=
  new.filterMap Event.line?

@[simp] lemma outward_append (old new : List Event) :
    outward (old ++ new) = outward old ++ outward new :=
  List.filter_append ..

@[simp] lemma linesOf_append (old new : List Event) :
    linesOf (old ++ new) = linesOf old ++ linesOf new :=
  List.filterMap_append

lemma outward_masking (journal : List Event) (secret : String) :
    outward (masking journal secret) = [] := by
  unfold masking
  split <;> rfl

lemma linesOf_masking (journal : List Event) (secret : String) :
    linesOf (masking journal secret) = [] := by
  unfold masking
  split <;> rfl

lemma outward_block (journal : List Event) (lead : String) (c : Command) (fate : Fate) :
    outward (block journal lead c fate) = [.command c fate] := by
  have quiet : outward (complaint journal c fate) = [] := by
    unfold complaint
    split
    · split <;> rfl
    · rfl
  exact congrArg (.command c fate :: ·) quiet

variable {k : Pairing} {j j' : List Event}

lemma Paired.left_drop (h : Paired k j j') (more : List Event) :
    (j ++ more).drop k.left.length = j.drop k.left.length ++ more :=
  List.drop_append_of_le_length h.left_isPrefix.length_le

lemma Paired.right_drop (h : Paired k j j') (more : List Event) :
    (j' ++ more).drop k.right.length = j'.drop k.right.length ++ more :=
  List.drop_append_of_le_length h.right_isPrefix.length_le

/-- What goes on together reaches out alike. -/
lemma Paired.outward (h : Paired k j j') :
    List.Forall₂ (Event.Alike k.command) (outward (j.drop k.left.length))
      (outward (j'.drop k.right.length)) := by
  induction h with
  | start =>
    rw [List.drop_length, List.drop_length]
    exact .nil
  | logged h level text ih =>
    rw [h.left_drop, h.right_drop, outward_append, outward_append]
    exact List.rel_append ih .nil
  | lookup h url reply ih =>
    rw [h.left_drop, h.right_drop, outward_append, outward_append]
    exact List.rel_append ih (.cons (.lookup url reply) .nil)
  | learned h ht ih =>
    rw [h.left_drop, h.right_drop, outward_append, outward_append, outward_masking,
      outward_masking, List.append_nil, List.append_nil]
    exact ih
  | command h lead argv alike fate ih =>
    rw [h.left_drop, h.right_drop, outward_append, outward_append, outward_block, outward_block]
    exact List.rel_append ih (.cons (.command argv alike fate) .nil)

/-! ### Lists of secrets -/

/-- Two lists of secrets mask alike whatever hides the given values, and hold the same other
values. -/
structure Agree (values l l' : List String) : Prop where
  others : ∀ x, x ∉ values → (x ∈ l ↔ x ∈ l')
  masks : ∀ text, (∀ x ∈ values, Hidden x text) → masked l text = masked l' text

namespace Agree

variable {values l l' : List String}

lemma of_subset (h : l ⊆ values) (h' : l' ⊆ values) : Agree values l l' where
  others x hx := ⟨fun hl => absurd (h hl) hx, fun hl => absurd (h' hl) hx⟩
  masks text hidden := by
    rw [masked_of_hidden fun x hx => hidden x (h hx),
      masked_of_hidden fun x hx => hidden x (h' hx)]

lemma symm (h : Agree values l l') : Agree values l' l :=
  ⟨fun x hx => (h.others x hx).symm, fun text hidden => (h.masks text hidden).symm⟩

/-- One more value, without the character of the mask, makes no difference. -/
lemma concat (h : Agree values l l') {x : String} (hx : x ∈ values) (star : '*' ∉ x.toList) :
    Agree values l (l' ++ [x]) where
  others y hy := by
    have ne : y ≠ x := fun e => hy (e ▸ hx)
    rw [List.mem_append, List.mem_singleton, or_iff_left ne]
    exact h.others y hy
  masks text hidden := by
    have still : Hidden x (masked l' text) := (hidden x hx).masked star l'
    rw [h.masks text hidden, masked_append, masked_of_hidden (l := [x]) (by simpa using still)]

lemma append (h : Agree values l l') (x : String) : Agree values (l ++ [x]) (l' ++ [x]) where
  others y hy := by rw [List.mem_append, List.mem_append, h.others y hy]
  masks text hidden := by rw [masked_append, masked_append, h.masks text hidden]

end Agree

/-- A token that both sessions learn leaves them in agreement, even if it is one of the values. -/
lemma Agree.learned {values : List String} (h : Agree values (secretsOf j) (secretsOf j'))
    {token : String} (plain : token ∈ values → '*' ∉ token.toList) :
    Agree values (secretsOf (j ++ masking j token)) (secretsOf (j' ++ masking j' token)) := by
  rw [secretsOf_append, secretsOf_append, secretsOf_masking, secretsOf_masking]
  by_cases none : token = ""
  · rw [if_pos (.inl none), if_pos (.inl none), List.append_nil, List.append_nil]
    exact h
  · simp only [none, false_or]
    by_cases left : token ∈ secretsOf j <;> by_cases right : token ∈ secretsOf j'
    · rw [if_pos left, if_pos right, List.append_nil, List.append_nil]
      exact h
    · have given : token ∈ values := by
        by_contra other
        exact right ((h.others token other).mp left)
      rw [if_pos left, if_neg right, List.append_nil]
      exact h.concat given (plain given)
    · have given : token ∈ values := by
        by_contra other
        exact left ((h.others token other).mpr right)
      rw [if_neg left, if_pos right, List.append_nil]
      exact (h.symm.concat given (plain given)).symm
    · rw [if_neg left, if_neg right]
      exact h.append token

lemma tokensOf_subset (old more : List Event) : tokensOf old ⊆ tokensOf (old ++ more) := by
  rw [tokensOf_append]
  exact List.subset_append_left _ _

/-- Nothing but tokens is masked on the way, so the sessions stay in agreement. -/
lemma Paired.agree (h : Paired k j j') {values : List String}
    (start : Agree values (secretsOf k.left) (secretsOf k.right))
    (plain : ∀ token ∈ tokensOf j, token ∈ values → '*' ∉ token.toList) :
    Agree values (secretsOf j) (secretsOf j') := by
  induction h with
  | start => exact start
  | logged h level text ih =>
    have none : secretsOf [.logged level text] = [] := rfl
    rw [secretsOf_append, secretsOf_append, none, List.append_nil, List.append_nil]
    exact ih fun token ht => plain token (tokensOf_subset _ _ ht)
  | lookup h url reply ih =>
    have none : secretsOf [.lookup url reply] = [] := rfl
    rw [secretsOf_append, secretsOf_append, none, List.append_nil, List.append_nil]
    exact ih fun token ht => plain token (tokensOf_subset _ _ ht)
  | learned h ht ih =>
    have before := ih fun token ht => plain token (tokensOf_subset _ _ ht)
    exact before.learned (plain _ (tokensOf_subset _ _ ht))
  | command h lead argv alike fate ih =>
    rw [secretsOf_append, secretsOf_append, secretsOf_block, secretsOf_block, List.append_nil,
      List.append_nil]
    exact ih fun token ht => plain token (tokensOf_subset _ _ ht)

/-! ### Lines -/

def Fate.stderr? : Fate → Option String
  | .started (.exited _ _ stderr) => some stderr
  | _ => none

/-- The texts of a command that can be told: its arguments, and its error stream. -/
def Event.texts : Event → List String
  | .command c fate => c.argv ++ fate.stderr?.toList
  | _ => []

/-- No command shows any of the values. -/
def Unseen (values : List String) (new : List Event) : Prop :=
  ∀ e ∈ new, ∀ text ∈ e.texts, ∀ x ∈ values, Hidden x text

instance (values : List String) (new : List Event) : Decidable (Unseen values new) :=
  inferInstanceAs (Decidable (∀ e ∈ new, ∀ text ∈ e.texts, ∀ x ∈ values, Hidden x text))

variable {values : List String}

lemma Unseen.left {old new : List Event} (h : Unseen values (old ++ new)) : Unseen values old :=
  fun e he => h e (List.mem_append_left _ he)

lemma Unseen.right {old new : List Event} (h : Unseen values (old ++ new)) : Unseen values new :=
  fun e he => h e (List.mem_append_right _ he)

lemma Agree.redact {l l' : List String} (h : Agree values l l') {argv : List String}
    (hidden : ∀ text ∈ argv, ∀ x ∈ values, Hidden x text) : redact argv l = redact argv l' :=
  congrArg (Text.joined " ") (List.map_congr_left fun text ht => h.masks text (hidden text ht))

section Block

variable {c d : Command} {fate : Fate} {lead : String}

lemma Unseen.argv (h : Unseen values (block j lead c fate)) :
    ∀ text ∈ c.argv, ∀ x ∈ values, Hidden x text := by
  have told : Event.command c fate ∈ block j lead c fate := by simp [block]
  exact fun text ht => h _ told text (List.mem_append_left _ ht)

lemma Unseen.stderr {status : Int} {stdout stderr : String}
    (h : Unseen values (block j lead c (.started (.exited status stdout stderr)))) :
    ∀ text ∈ [stderr], ∀ x ∈ values, Hidden x text := by
  have told : Event.command c (.started (.exited status stdout stderr)) ∈
      block j lead c (.started (.exited status stdout stderr)) := by simp [block]
  exact fun text ht => h _ told text (List.mem_append_right _ ht)

/-- Where the secrets agree, a command that shows none of the values is told in the same lines. -/
lemma Agree.linesOf_block (h : Agree values (secretsOf j) (secretsOf j')) (argv : c.argv = d.argv)
    (unseen : Unseen values (block j lead c fate)) :
    linesOf (block j lead c fate) = linesOf (block j' lead d fate) := by
  have complaints : complaint j c fate = complaint j' d fate := by
    unfold complaint
    split
    · simp only [exitLine, argv, h.redact unseen.stderr]
    · rfl
  rw [block, block, complaints, argv, h.redact (by rw [← argv]; exact unseen.argv)]
  rfl

end Block

/-- Sessions whose secrets agreed at first tell the same lines, if no command shows any of the
values. -/
lemma Paired.lines (h : Paired k j j')
    (start : Agree values (secretsOf k.left) (secretsOf k.right))
    (plain : ∀ token ∈ tokensOf j, token ∈ values → '*' ∉ token.toList)
    (unseen : Unseen values (j.drop k.left.length)) :
    linesOf (j.drop k.left.length) = linesOf (j'.drop k.right.length) := by
  induction h with
  | start => rw [List.drop_length, List.drop_length]
  | logged h level text ih =>
    rw [h.left_drop] at unseen
    rw [h.left_drop, h.right_drop, linesOf_append, linesOf_append,
      ih (fun token ht => plain token (tokensOf_subset _ _ ht)) unseen.left]
  | lookup h url reply ih =>
    rw [h.left_drop] at unseen
    rw [h.left_drop, h.right_drop, linesOf_append, linesOf_append,
      ih (fun token ht => plain token (tokensOf_subset _ _ ht)) unseen.left]
  | learned h ht ih =>
    rw [h.left_drop] at unseen
    rw [h.left_drop, h.right_drop, linesOf_append, linesOf_append, linesOf_masking,
      linesOf_masking, ih (fun token ht => plain token (tokensOf_subset _ _ ht)) unseen.left]
  | command h lead argv alike fate ih =>
    have before := fun token ht => plain token (tokensOf_subset _ _ ht)
    rw [h.left_drop] at unseen
    rw [h.left_drop, h.right_drop, linesOf_append, linesOf_append, ih before unseen.left,
      (h.agree start before).linesOf_block argv unseen.right]

/-! ### Failures -/

/-- A failure without what a tool has written. -/
def Failure.outline : Failure → Failure
  | .rejected (.tool (.exited exit)) => .rejected (.tool (.exited { exit with stderr := "" }))
  | e => e

lemma SameFailure.outline {e f : Failure} (h : SameFailure k j j' e f) : e.outline = f.outline := by
  cases h with
  | same => rfl
  | exited h lead argv bad left right => simp only [exitFailure, Failure.outline, argv]

/-- Failures that are told alike are the same, if no command shows any of the values. -/
lemma SameFailure.eq {e f : Failure} (h : SameFailure k j j' e f)
    (start : Agree values (secretsOf k.left) (secretsOf k.right))
    (plain : ∀ token ∈ tokensOf j, token ∈ values → '*' ∉ token.toList)
    (unseen : Unseen values (j.drop k.left.length)) : e = f := by
  cases h with
  | same => rfl
  | exited h lead argv bad left right =>
    obtain ⟨more, rfl, -⟩ := left
    rw [List.append_assoc, h.left_drop] at unseen
    have before := h.agree start fun token ht => plain token
      (tokensOf_subset _ _ (tokensOf_subset _ _ ht))
    simp only [exitFailure, argv, before.redact unseen.right.left.stderr]

end ImageRelease
