import Mathlib.Data.List.Count
import ImageRelease.Proofs.Masking

/-!
Values masked as a whole.

Values are masked one after another, so what becomes of a value depends on the order in which they
became known. A text that was once cut by a mask shows it for good: it keeps more than the mask, in
stars or in what is left of the text. So `redact_whole_iff` says exactly when an argument that is a
registered value is rendered as the mask: no value that is a part of it was registered before it.
-/

namespace ImageRelease

namespace Text

variable {part repl l : List Char} {c : Char}

/-! ### The first occurrence -/

lemma replaceFrom_drop (skip : Nat) :
    replaceFrom part repl skip l = replaceFrom part repl 0 (l.drop skip) := by
  induction l generalizing skip with
  | nil => rw [List.drop_nil, replaceFrom_nil, replaceFrom_nil]
  | cons d rest ih =>
    rcases skip with _ | skip
    · rfl
    · exact ih skip

/-- A part in front is replaced, and then the rest is looked through. -/
lemma replaceAll_append (some : part ≠ []) (rest : List Char) :
    replaceAll part repl (part ++ rest) = repl ++ replaceAll part repl rest := by
  obtain ⟨d, more, rfl⟩ := List.exists_cons_of_ne_nil some
  have behind : (more ++ rest).drop ((d :: more).length - 1) = rest := List.drop_left
  rw [replaceAll, replaceAll, if_neg some, if_neg some, List.cons_append,
    replaceFrom_of_isPrefix ⟨rest, rfl⟩, replaceFrom_drop, behind]

/-- A text up to the first occurrence of a part stays, and the rest is looked through. -/
lemma replaceAll_of_infix (repl : List Char) (some : part ≠ []) (hp : part <:+: l) :
    ∃ before after, l = before ++ (part ++ after) ∧
      replaceAll part repl l = before ++ (repl ++ replaceAll part repl after) := by
  induction l with
  | nil => exact absurd (List.infix_nil.mp hp) some
  | cons d rest ih =>
    by_cases first : part <+: d :: rest
    · obtain ⟨after, parts⟩ := first
      refine ⟨[], after, parts.symm, ?_⟩
      rw [← parts, replaceAll_append some, List.nil_append]
    · obtain ⟨before, after, rfl, replaced⟩ := ih ((List.infix_cons_iff.mp hp).resolve_left first)
      refine ⟨d :: before, after, rfl, ?_⟩
      rw [replaceAll, if_neg some] at replaced ⊢
      rw [replaceFrom_of_not_isPrefix first, replaced, List.cons_append]

/-! ### What a replacement leaves -/

lemma replaceAll_nil : replaceAll part repl [] = [] := by
  unfold replaceAll
  split
  · rfl
  · exact replaceFrom_nil

lemma replaceAll_self (repl : List Char) (some : part ≠ []) : replaceAll part repl part = repl := by
  calc replaceAll part repl part
      = replaceAll part repl (part ++ []) := by rw [List.append_nil]
    _ = repl ++ replaceAll part repl [] := replaceAll_append some []
    _ = repl := by rw [replaceAll_nil, List.append_nil]

lemma count_le_replaceAll (out : c ∉ part) (some : part ≠ []) :
    l.count c ≤ (replaceAll part repl l).count c := by
  induction hn : l.length using Nat.strong_induction_on generalizing l with
  | _ n ih =>
    by_cases hp : part <:+: l
    · obtain ⟨before, after, rfl, replaced⟩ := replaceAll_of_infix repl some hp
      have shorter : after.length < n := by
        have := List.length_pos_of_ne_nil some
        simp only [List.length_append] at hn
        omega
      have kept := ih _ shorter rfl
      rw [replaced, List.count_append, List.count_append, List.count_append, List.count_append,
        List.count_eq_zero_of_not_mem out]
      omega
    · rw [replaceAll_of_absent hp]

lemma count_add_le_replaceAll (out : c ∉ part) (some : part ≠ []) (hp : part <:+: l) :
    l.count c + repl.count c ≤ (replaceAll part repl l).count c := by
  obtain ⟨before, after, rfl, replaced⟩ := replaceAll_of_infix repl some hp
  have kept : after.count c ≤ (replaceAll part repl after).count c := count_le_replaceAll out some
  rw [replaced, List.count_append, List.count_append, List.count_append, List.count_append,
    List.count_eq_zero_of_not_mem out]
  omega

lemma eq_of_replaceAll_eq (ne : repl ≠ []) (some : part ≠ []) (hp : part <:+: l)
    (h : replaceAll part repl l = repl) : l = part := by
  obtain ⟨before, after, rfl, replaced⟩ := replaceAll_of_infix repl some hp
  have lengths := congrArg List.length (replaced.symm.trans h)
  simp only [List.length_append] at lengths
  have front : before = [] := List.eq_nil_of_length_eq_zero (by omega)
  have back : replaceAll part repl after = [] := List.eq_nil_of_length_eq_zero (by omega)
  have none : after = [] := by
    by_cases again : part <:+: after
    · obtain ⟨_, _, -, replaced⟩ := replaceAll_of_infix repl some again
      rw [replaced, List.append_eq_nil_iff, List.append_eq_nil_iff] at back
      exact absurd back.2.1 ne
    · rwa [replaceAll_of_absent again] at back
  rw [front, none, List.nil_append, List.append_nil]

/-! ### Texts put together -/

lemma joined_inj {sep x y : String} {before after : List String}
    (h : joined sep (before ++ x :: after) = joined sep (before ++ y :: after)) : x = y := by
  induction before with
  | nil =>
    rcases after with _ | ⟨z, after⟩
    · exact h
    · exact (String.append_left_inj _).mp ((String.append_left_inj _).mp h)
  | cons z before ih =>
    have front (w : String) : joined sep (z :: (before ++ w :: after)) =
        z ++ sep ++ joined sep (before ++ w :: after) := by
      cases before <;> rfl
    rw [List.cons_append, List.cons_append, front, front] at h
    exact ih ((String.append_right_inj _).mp h)

end Text

/-! ### Values in the order in which they became known -/

/-- A text that a mask has cut: it has the stars of a mask, and is none. -/
def Marred (text : String) : Prop :=
  mask.toList.count '*' ≤ text.toList.count '*' ∧ text ≠ mask

/-- A value that is masked where it is a part of a text leaves that text cut. -/
lemma marred_of_part {secret text : String} (h : Maskable secret)
    (hi : secret.toList <:+: text.toList) (other : text ≠ secret) :
    Marred (.ofList (Text.replaceAll secret.toList mask.toList text.toList)) := by
  have some : secret.toList ≠ [] := fun none => h.1 (String.toList_injective none)
  refine ⟨?_, fun whole => other ?_⟩
  · rw [String.toList_ofList]
    exact (Nat.le_add_left _ _).trans (Text.count_add_le_replaceAll h.2 some hi)
  · have left := congrArg String.toList whole
    rw [String.toList_ofList] at left
    exact String.toList_injective (Text.eq_of_replaceAll_eq mask_ne_nil some hi left)

lemma Marred.masked {text : String} (h : Marred text) {secrets : List String}
    (maskable : ∀ s ∈ secrets, Maskable s) : Marred (masked secrets text) := by
  induction secrets generalizing text with
  | nil => exact h
  | cons secret rest ih =>
    obtain ⟨first, others⟩ := List.forall_mem_cons.mp maskable
    rw [masked_cons]
    refine ih ?_ others
    by_cases hi : secret.toList <:+: text.toList
    · refine marred_of_part first hi ?_
      rintro rfl
      exact first.2 (List.count_pos_iff.mp (Nat.lt_of_lt_of_le (by decide) h.1))
    · rwa [replaceAll_of_hidden hi]

lemma marred_of_earlier {secret : String} {earlier : List String}
    (maskable : ∀ s ∈ earlier, Maskable s) (other : secret ∉ earlier)
    (part : ∃ s ∈ earlier, s.toList <:+: secret.toList) : Marred (masked earlier secret) := by
  induction earlier with
  | nil => obtain ⟨s, hs, -⟩ := part; cases hs
  | cons first rest ih =>
    obtain ⟨hf, others⟩ := List.forall_mem_cons.mp maskable
    rw [List.mem_cons, not_or] at other
    rw [masked_cons]
    by_cases hi : first.toList <:+: secret.toList
    · exact (marred_of_part hf hi other.1).masked others
    · rw [replaceAll_of_hidden hi]
      refine ih others other.2 ?_
      obtain ⟨s, hs, hp⟩ := part
      rcases List.mem_cons.mp hs with rfl | hr
      · exact absurd hp hi
      · exact ⟨s, hr, hp⟩

lemma Maskable.hidden_mask {secret : String} (h : Maskable secret) : Hidden secret mask := by
  intro hi
  obtain ⟨c, hc⟩ := List.exists_mem_of_ne_nil _ fun none => h.1 (String.toList_injective none)
  have star := not_mem_of_mem_mask h.2 c (hi.subset hc)
  exact star hc

/-- A registered value becomes the mask exactly if nothing that it has as a part was registered
before it. -/
lemma masked_eq_mask_iff {secrets : List String} (maskable : ∀ s ∈ secrets, Maskable s)
    {secret : String} (known : secret ∈ secrets) :
    masked secrets secret = mask ↔
      ∀ s ∈ secrets.takeWhile (· ≠ secret), Hidden s secret := by
  have some : secret.toList ≠ [] := fun none =>
    (maskable secret known).1 (String.toList_injective none)
  obtain ⟨earlier, later, rfl, other⟩ := List.eq_append_cons_of_mem known
  have before : (earlier ++ secret :: later).takeWhile (· ≠ secret) = earlier := by
    rw [List.takeWhile_append_of_pos, List.takeWhile_cons_of_neg (by simp), List.append_nil]
    exact fun s hs => decide_eq_true fun same => other (same ▸ hs)
  obtain ⟨early, late⟩ := List.forall_mem_append.mp maskable
  rw [before, masked_append]
  constructor
  · intro whole s hs part
    exact ((marred_of_earlier early other ⟨s, hs, part⟩).masked late).2 whole
  · intro hidden
    rw [masked_of_hidden hidden, masked_cons, Text.replaceAll_self _ some, String.ofList_toList]
    exact masked_of_hidden fun s hs => (late s (List.mem_cons_of_mem _ hs)).hidden_mask

/-- **Masking as a whole**: an argument that is a registered value is rendered as the mask exactly
if no value that is a part of it was registered before it. -/
theorem redact_whole_iff {secrets : List String} (maskable : ∀ s ∈ secrets, Maskable s)
    {secret : String} (known : secret ∈ secrets) (before after : List String) :
    redact (before ++ secret :: after) secrets =
        Text.joined " " (before.map (masked secrets) ++ mask :: after.map (masked secrets)) ↔
      ∀ s ∈ secrets.takeWhile (· ≠ secret), Hidden s secret := by
  rw [← masked_eq_mask_iff maskable known, redact, List.map_append, List.map_cons]
  exact ⟨Text.joined_inj, fun whole => by rw [whole]⟩

/-- Values of which one is a part of another, registered after it, and two that overlap. -/
theorem redact_whole_iff_nested :
    (∀ s ∈ ["abc", "ab", "bcd"], Maskable s) ∧ "abc" ∈ ["abc", "ab", "bcd"] ∧
      redact ["docker", "abc", "--push"] ["abc", "ab", "bcd"] = "docker *** --push" := by
  have maskable : ∀ s ∈ ["abc", "ab", "bcd"], Maskable s := by decide
  have known : "abc" ∈ ["abc", "ab", "bcd"] := by decide
  refine ⟨maskable, known, ?_⟩
  exact (redact_whole_iff maskable known ["docker"] ["--push"]).mpr (by decide)

/-- A value of which a part was registered before it: the rest of it is seen. -/
theorem redact_whole_cut :
    (∀ s ∈ ["ab", "abc"], Maskable s) ∧ "abc" ∈ ["ab", "abc"] ∧
      redact ["abc"] ["ab", "abc"] = "***c" ∧ redact ["abc"] ["ab", "abc"] ≠ mask := by
  decide +kernel

end ImageRelease
