import Mathlib.Data.List.Infix
import ImageRelease.Masking
import ImageRelease.Text.Blank

/-!
Masked texts.

A part that is replaced is gone, and a replacement brings back nothing that shares no character with
what is put in its place: both follow from how the suffixes of a replaced text look. So a value
without the character of the mask does not occur in a text in which it was masked, whatever else is
masked before it or after it, and cutting such a text brings nothing to light.
-/

namespace ImageRelease

namespace Text

variable {part repl w l : List Char} {skip : Nat}

@[simp] lemma replaceFrom_nil : replaceFrom part repl skip [] = [] := by
  cases skip <;> rfl

lemma replaceFrom_of_isPrefix {c : Char} {rest : List Char} (h : part <+: c :: rest) :
    replaceFrom part repl 0 (c :: rest) = repl ++ replaceFrom part repl (part.length - 1) rest := by
  rw [replaceFrom, if_pos (List.isPrefixOf_iff_prefix.mpr h)]

lemma replaceFrom_of_not_isPrefix {c : Char} {rest : List Char} (h : ¬part <+: c :: rest) :
    replaceFrom part repl 0 (c :: rest) = c :: replaceFrom part repl 0 rest := by
  rw [replaceFrom, if_neg fun hp => h (List.isPrefixOf_iff_prefix.mp hp)]

/-- A suffix of a replaced text starts where a suffix of the text did, or within a replacement. -/
lemma suffix_replaceFrom {t : List Char} (h : t <:+ replaceFrom part repl skip l) :
    (∃ l', l' <:+ l ∧ t = replaceFrom part repl 0 l') ∨ ∃ c rest, c ∈ repl ∧ t = c :: rest := by
  induction l generalizing skip with
  | nil => exact .inl ⟨[], List.suffix_rfl, by simpa using h⟩
  | cons c rest ih =>
    have later (skip : Nat) (h : t <:+ replaceFrom part repl skip rest) :
        (∃ l', l' <:+ c :: rest ∧ t = replaceFrom part repl 0 l') ∨
          ∃ c rest, c ∈ repl ∧ t = c :: rest :=
      (ih h).imp_left fun ⟨l', hl, ht⟩ => ⟨l', hl.trans (List.suffix_cons c rest), ht⟩
    rcases skip with _ | skip
    · by_cases hp : part <+: c :: rest
      · rw [replaceFrom_of_isPrefix hp] at h
        obtain ⟨before, h⟩ := h
        rcases List.append_eq_append_iff.mp h with ⟨within, hr, ht⟩ | ⟨between, -, ht⟩
        · rcases within with _ | ⟨d, within⟩
          · exact later _ ⟨[], by rw [ht]; rfl⟩
          · exact .inr ⟨d, _, by rw [hr]; simp, ht⟩
        · exact later _ ⟨between, ht.symm⟩
      · rw [replaceFrom_of_not_isPrefix hp, List.suffix_cons_iff] at h
        rcases h with ht | h
        · exact .inl ⟨_, List.suffix_rfl, by rw [ht, replaceFrom_of_not_isPrefix hp]⟩
        · exact later 0 h
    · exact later skip h

/-- What starts a replaced text, and shares no character with the replacement, starts the text. -/
lemma prefix_of_prefix_replaceFrom (ne : repl ≠ []) (hw : ∀ c ∈ repl, c ∉ w)
    (h : w <+: replaceFrom part repl 0 l) : w <+: l := by
  induction l generalizing w with
  | nil => simpa using h
  | cons c rest ih =>
    rcases w with _ | ⟨d, w⟩
    · exact List.nil_prefix
    · by_cases hp : part <+: c :: rest
      · rw [replaceFrom_of_isPrefix hp] at h
        obtain ⟨e, repl', rfl⟩ := List.exists_cons_of_ne_nil ne
        rw [List.cons_append, List.cons_prefix_cons] at h
        exact absurd (by rw [h.1]; exact List.mem_cons_self) (hw e List.mem_cons_self)
      · rw [replaceFrom_of_not_isPrefix hp, List.cons_prefix_cons] at h
        rw [List.cons_prefix_cons]
        exact ⟨h.1, ih (fun c hc hm => hw c hc (List.mem_cons_of_mem _ hm)) h.2⟩

/-- A replacement brings nothing forth that shares no character with it. -/
lemma infix_of_infix_replaceAll (ne : repl ≠ []) (hw : ∀ c ∈ repl, c ∉ w)
    (h : w <:+: replaceAll part repl l) : w <:+: l := by
  unfold replaceAll at h
  split at h
  · exact h
  · obtain ⟨t, hp, hs⟩ := List.infix_iff_prefix_suffix.mp h
    rcases suffix_replaceFrom hs with ⟨l', hl, rfl⟩ | ⟨c, rest, hc, rfl⟩
    · exact (prefix_of_prefix_replaceFrom ne hw hp).isInfix.trans hl.isInfix
    · rcases w with _ | ⟨d, w⟩
      · exact List.nil_infix
      · rw [List.cons_prefix_cons] at hp
        exact absurd (by rw [hp.1]; exact List.mem_cons_self) (hw c hc)

lemma not_infix_replaceAll (ne : repl ≠ []) (hp : ∀ c ∈ repl, c ∉ part) (some : part ≠ []) :
    ¬part <:+: replaceAll part repl l := by
  intro h
  rw [replaceAll, if_neg some] at h
  obtain ⟨d, part', hd⟩ := List.exists_cons_of_ne_nil some
  have elsewhere {c : Char} {rest : List Char} (hc : c ∈ repl) (h : part <+: c :: rest) :
      False := by
    rw [hd, List.cons_prefix_cons] at h
    exact hp c hc (by rw [hd, h.1]; exact List.mem_cons_self)
  obtain ⟨t, hpre, hs⟩ := List.infix_iff_prefix_suffix.mp h
  rcases suffix_replaceFrom hs with ⟨l', hl, rfl⟩ | ⟨c, rest, hc, rfl⟩
  · have starts := prefix_of_prefix_replaceFrom ne hp hpre
    rcases l' with _ | ⟨c, rest⟩
    · exact some (List.prefix_nil.mp starts)
    · rw [replaceFrom_of_isPrefix starts] at hpre
      obtain ⟨e, repl', rfl⟩ := List.exists_cons_of_ne_nil ne
      exact elsewhere List.mem_cons_self hpre
  · exact elsewhere hc hpre

lemma replaceAll_empty : replaceAll "".toList repl l = l :=
  if_pos rfl

lemma replaceAll_of_absent (h : ¬part <:+: l) : replaceAll part repl l = l := by
  unfold replaceAll
  split
  · rfl
  · induction l with
    | nil => rfl
    | cons c rest ih =>
      rw [replaceFrom_of_not_isPrefix fun hp => h hp.isInfix,
        ih fun hi => h (hi.trans (List.suffix_cons c rest).isInfix)]

/-! ### Cut texts -/

lemma lastChars_suffix (n : Nat) (s : String) : (lastChars n s).toList <:+ s.toList := by
  simp [lastChars, List.drop_suffix]

lemma strip_infix (s : String) : (strip s).toList <:+: s.toList := by
  simp only [strip, trim, trimBy, String.toList_ofList]
  have right : (s.toList.dropWhile isBlank).reverse.dropWhile isBlank <:+
      (s.toList.dropWhile isBlank).reverse := List.dropWhile_suffix _
  have left := (List.reverse_prefix.mpr right).isInfix
  rw [List.reverse_reverse] at left
  exact left.trans (List.dropWhile_suffix _).isInfix

end Text

/-! ### Values that are masked -/

/-- A value that a mask hides: there is something to it, and it has no character of the mask. -/
def Maskable (secret : String) : Prop :=
  secret ≠ "" ∧ '*' ∉ secret.toList

instance (secret : String) : Decidable (Maskable secret) :=
  inferInstanceAs (Decidable (_ ∧ _))

/-- A value does not occur in a text. -/
def Hidden (secret text : String) : Prop :=
  ¬secret.toList <:+: text.toList

instance (secret text : String) : Decidable (Hidden secret text) :=
  inferInstanceAs (Decidable ¬_)

lemma Hidden.of_infix {secret text part : String} (h : Hidden secret text)
    (hp : part.toList <:+: text.toList) : Hidden secret part :=
  fun hi => h (hi.trans hp)

/-! ### Masking one value after another -/

lemma masked_cons (secret : String) (rest : List String) (text : String) :
    masked (secret :: rest) text =
      masked rest (.ofList (Text.replaceAll secret.toList mask.toList text.toList)) :=
  rfl

lemma masked_append (l more : List String) (text : String) :
    masked (l ++ more) text = masked more (masked l text) :=
  List.foldl_append

lemma replaceAll_of_hidden {secret text : String} (h : Hidden secret text) :
    String.ofList (Text.replaceAll secret.toList mask.toList text.toList) = text := by
  rw [Text.replaceAll_of_absent h, String.ofList_toList]

/-- Masking leaves a text as it is in which there is nothing to mask. -/
lemma masked_of_absent {l : List String} {text : String} (h : ∀ x ∈ l, x ≠ "" → Hidden x text) :
    masked l text = text := by
  induction l with
  | nil => rfl
  | cons x rest ih =>
    obtain ⟨first, others⟩ := List.forall_mem_cons.mp h
    by_cases empty : x = ""
    · rw [masked_cons, empty, Text.replaceAll_empty, String.ofList_toList, ih others]
    · rw [masked_cons, replaceAll_of_hidden (first empty), ih others]

lemma masked_of_hidden {l : List String} {text : String} (h : ∀ x ∈ l, Hidden x text) :
    masked l text = text :=
  masked_of_absent fun x hx _ => h x hx

lemma mask_ne_nil : mask.toList ≠ [] := by decide

lemma not_mem_of_mem_mask {w : List Char} (h : '*' ∉ w) : ∀ c ∈ mask.toList, c ∉ w := by
  intro c hc
  have star : c = '*' := by simpa [mask] using hc
  rwa [star]

lemma Hidden.masked {secret text : String} (star : '*' ∉ secret.toList) (h : Hidden secret text)
    (secrets : List String) : Hidden secret (masked secrets text) := by
  induction secrets generalizing text with
  | nil => exact h
  | cons other rest ih =>
    refine ih fun hi => h ?_
    rw [String.toList_ofList] at hi
    exact Text.infix_of_infix_replaceAll mask_ne_nil (not_mem_of_mem_mask star) hi

/-- **Masking**: a value that a mask hides occurs nowhere in a text in which it was masked, whatever
else was masked before or after it. -/
theorem hidden_masked {secret : String} {secrets : List String} (h : Maskable secret)
    (hs : secret ∈ secrets) (text : String) : Hidden secret (masked secrets text) := by
  induction secrets generalizing text with
  | nil => cases hs
  | cons other rest ih =>
    rcases List.mem_cons.mp hs with rfl | hr
    · refine Hidden.masked h.2 (fun hi => ?_) rest
      rw [String.toList_ofList] at hi
      refine Text.not_infix_replaceAll mask_ne_nil (not_mem_of_mem_mask h.2) (fun hn => h.1 ?_) hi
      exact String.toList_injective hn
    · exact ih hr _

end ImageRelease
