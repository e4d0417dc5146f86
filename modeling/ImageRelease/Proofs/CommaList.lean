import ImageRelease.Proofs.Version
import ImageRelease.Settings

/-!
Lists written with commas.

A list is read off a text field by field: the blanks around a field do not count, and a field with
nothing else in it is none of the parts. `commaList_eq_iff` says which texts a list is read from:
its parts stand there in their order, each in a field of its own with any blanks around it, and any
number of blank fields may come before, between and after them. So no part is lost and none is made
up, and a list that was read is read again from its parts with plain commas.
-/

namespace ImageRelease

namespace Text

/-! ### Fields -/

variable {sep : Char} {text : String} {f : List Char} {fs : List String}

lemma fields_append (out : sep ∉ f) (rest : List Char) :
    fields sep (f ++ sep :: rest) = f :: fields sep rest := by
  induction f with
  | nil => rw [List.nil_append, fields, if_pos rfl]
  | cons c f ih =>
    rw [List.mem_cons, not_or] at out
    rw [List.cons_append, fields, if_neg (Ne.symm out.1), ih out.2]

lemma fields_of_not_mem (out : sep ∉ f) : fields sep f = [f] := by
  induction f with
  | nil => rfl
  | cons c f ih =>
    rw [List.mem_cons, not_or] at out
    rw [fields, if_neg (Ne.symm out.1), ih out.2]

/-- Texts without a separator are the fields of what they are put together to. -/
lemma fields_joined (alone : text.toList = [sep]) (some : fs ≠ [])
    (out : ∀ f ∈ fs, sep ∉ f.toList) :
    fields sep (joined text fs).toList = fs.map String.toList := by
  induction fs with
  | nil => exact absurd rfl some
  | cons f rest ih =>
    obtain ⟨first, others⟩ := List.forall_mem_cons.mp out
    rcases rest with _ | ⟨g, rest⟩
    · exact fields_of_not_mem first
    · rw [toList_joined_cons, alone, List.append_assoc, List.singleton_append,
        fields_append first, ih (List.cons_ne_nil _ _) others, List.map_cons (l := g :: rest)]

lemma exists_joined (alone : text.toList = [sep]) (l : List Char) :
    ∃ fs ≠ [], (∀ f ∈ fs, sep ∉ f.toList) ∧ (joined text fs).toList = l := by
  induction l with
  | nil => exact ⟨[""], List.cons_ne_nil _ _, by simp, rfl⟩
  | cons c l ih =>
    obtain ⟨fs, some, out, rfl⟩ := ih
    obtain ⟨f, rest, rfl⟩ := List.exists_cons_of_ne_nil some
    by_cases cut : c = sep
    · refine ⟨"" :: f :: rest, List.cons_ne_nil _ _, ?_, ?_⟩
      · exact List.forall_mem_cons.mpr ⟨by simp, out⟩
      · rw [toList_joined_cons, alone, cut]
        rfl
    · obtain ⟨first, others⟩ := List.forall_mem_cons.mp out
      refine ⟨.ofList (c :: f.toList) :: rest, List.cons_ne_nil _ _, ?_, ?_⟩
      · refine List.forall_mem_cons.mpr ⟨?_, others⟩
        rw [String.toList_ofList, List.mem_cons, not_or]
        exact ⟨Ne.symm cut, first⟩
      · rcases rest with _ | ⟨g, rest⟩
        · exact String.toList_ofList
        · rw [toList_joined_cons, toList_joined_cons, String.toList_ofList]
          rfl

/-! ### Blanks around a text -/

variable {before l after : List Char}

lemma trim_between (hb : ∀ c ∈ before, isBlank c) (ha : ∀ c ∈ after, isBlank c) :
    trim (before ++ l ++ after) = trim l := by
  have front : before.dropWhile isBlank = [] := List.dropWhile_eq_nil_iff.mpr hb
  have back : after.dropWhile isBlank = [] := List.dropWhile_eq_nil_iff.mpr ha
  rw [trim, trim, trimBy_eq, trimBy_eq, List.append_assoc, List.dropWhile_append, front,
    List.isEmpty_nil, if_pos rfl, List.dropWhile_append, back]
  split
  · case isTrue blank => rw [List.isEmpty_iff.mp blank]
  · have behind : after.reverse.dropWhile isBlank = [] :=
      List.dropWhile_eq_nil_iff.mpr fun c hc => ha c (List.mem_reverse.mp hc)
    rw [List.rdropWhile, List.reverse_append, List.dropWhile_append, behind, List.isEmpty_nil,
      if_pos rfl, List.rdropWhile]

lemma exists_between (l : List Char) :
    ∃ before after, (∀ c ∈ before, isBlank c) ∧ (∀ c ∈ after, isBlank c) ∧
      l = before ++ trim l ++ after := by
  refine ⟨l.takeWhile isBlank, (l.dropWhile isBlank).rtakeWhile isBlank,
    fun _ => List.mem_takeWhile_imp, fun _ => List.mem_rtakeWhile_imp, ?_⟩
  rw [trim, trimBy_eq, List.append_assoc, List.rdropWhile_append_rtakeWhile,
    List.takeWhile_append_dropWhile]

lemma strip_strip (s : String) : strip (strip s) = strip s :=
  strip_ofList_trim s.toList

end Text

namespace Settings

open Text

/-! ### Parts and the fields that they stand in -/

/-- What can be a part of a list: more than nothing, without blanks at its ends, and without a
comma. -/
def IsPart (part : String) : Prop :=
  part ≠ "" ∧ strip part = part ∧ ',' ∉ part.toList

instance (part : String) : Decidable (IsPart part) :=
  inferInstanceAs (Decidable (_ ∧ _ ∧ _))

/-- Nothing but blanks. -/
def IsGap (s : String) : Prop :=
  ∀ c ∈ s.toList, isBlank c = true

/-- Parts stand in fields: each of them in its order between blanks, and the other fields are
blank. -/
inductive Spread : List String → List String → Prop
  | nil : Spread [] []
  | gap {parts fields : List String} {s : String} (blank : IsGap s) (h : Spread parts fields) :
      Spread parts (s :: fields)
  | part {parts fields : List String} {before after : String} (part : String)
      (hb : IsGap before) (ha : IsGap after) (h : Spread parts fields) :
      Spread (part :: parts) ((before ++ part ++ after) :: fields)

variable {s before after part : String} {parts fields : List String}

lemma isGap_empty : IsGap "" :=
  nofun

lemma IsGap.no_comma (h : IsGap s) : ',' ∉ s.toList :=
  fun hc => Bool.noConfusion (h ',' hc)

lemma strip_between (hb : IsGap before) (ha : IsGap after) (s : String) :
    strip (before ++ s ++ after) = strip s := by
  rw [strip, String.toList_append, String.toList_append, trim_between hb ha, strip]

lemma strip_gap (h : IsGap s) : strip s = "" := by
  have whole := strip_between h isGap_empty ""
  rwa [String.append_empty, String.append_empty] at whole

lemma exists_strip_between (s : String) :
    ∃ before after, IsGap before ∧ IsGap after ∧ s = before ++ strip s ++ after := by
  obtain ⟨before, after, hb, ha, parts⟩ := exists_between s.toList
  refine ⟨.ofList before, .ofList after, ?_, ?_, ?_⟩
  · rwa [IsGap, String.toList_ofList]
  · rwa [IsGap, String.toList_ofList]
  · apply String.toList_injective
    rw [String.toList_append, String.toList_append, String.toList_ofList, String.toList_ofList,
      strip, String.toList_ofList, ← parts]

namespace Spread

lemma no_comma (h : Spread parts fields) (plain : ∀ part ∈ parts, IsPart part) :
    ∀ f ∈ fields, ',' ∉ f.toList := by
  induction h with
  | nil => exact nofun
  | gap blank _ ih => exact List.forall_mem_cons.mpr ⟨blank.no_comma, ih plain⟩
  | part part hb ha _ ih =>
    obtain ⟨first, others⟩ := List.forall_mem_cons.mp plain
    refine List.forall_mem_cons.mpr ⟨?_, ih others⟩
    rw [String.toList_append, String.toList_append, List.mem_append, List.mem_append, not_or,
      not_or]
    exact ⟨⟨hb.no_comma, first.2.2⟩, ha.no_comma⟩

lemma filter_strip (h : Spread parts fields) (plain : ∀ part ∈ parts, IsPart part) :
    (fields.map strip).filter (· ≠ "") = parts := by
  induction h with
  | nil => rfl
  | gap blank _ ih =>
    rw [List.map_cons, strip_gap blank, List.filter_cons_of_neg (by decide), ih plain]
  | part part hb ha _ ih =>
    obtain ⟨⟨some, solid, -⟩, others⟩ := List.forall_mem_cons.mp plain
    rw [List.map_cons, strip_between hb ha, solid, List.filter_cons_of_pos (by simpa using some),
      ih others]

lemma of_fields (fields : List String) : Spread ((fields.map strip).filter (· ≠ "")) fields := by
  induction fields with
  | nil => exact .nil
  | cons f rest ih =>
    obtain ⟨before, after, hb, ha, parts⟩ := exists_strip_between f
    by_cases blank : strip f = ""
    · rw [List.map_cons, List.filter_cons_of_neg (by simpa using blank)]
      refine .gap ?_ ih
      rw [parts, blank, String.append_empty, IsGap, String.toList_append]
      exact fun c hc => (List.mem_append.mp hc).elim (hb c) (ha c)
    · rw [List.map_cons, List.filter_cons_of_pos (by simpa using blank)]
      have stands := Spread.part (strip f) hb ha ih
      rwa [← parts] at stands

end Spread

/-! ### Lists that are read -/

/-- What is read are the fields without the blanks around them, and without blank ones. -/
lemma commaList_joined (out : ∀ f ∈ fields, ',' ∉ f.toList) :
    commaList (joined "," fields) = (fields.map strip).filter (· ≠ "") := by
  rcases fields with _ | ⟨f, rest⟩
  · rfl
  · have left (f : String) : (trim f.toList != []) = decide (strip f ≠ "") := by
      rw [Bool.eq_iff_iff, bne_iff_ne, decide_eq_true_eq, strip, ne_eq, ne_eq,
        String.ofList_eq_empty_iff]
    rw [commaList, fields_joined rfl (List.cons_ne_nil _ _) out, List.map_map, List.filter_map,
      List.map_map, List.filter_map]
    refine congrArg (List.map strip) (List.filter_congr fun f _ => left f)

lemma exists_fields (s : String) :
    ∃ fields, (∀ f ∈ fields, ',' ∉ f.toList) ∧ joined "," fields = s := by
  have comma : ",".toList = [','] := rfl
  obtain ⟨fields, -, out, whole⟩ := exists_joined comma s.toList
  exact ⟨fields, out, String.toList_injective whole⟩

lemma isPart_of_mem_commaList (h : part ∈ commaList s) : IsPart part := by
  obtain ⟨fields, out, rfl⟩ := exists_fields s
  rw [commaList_joined out, List.mem_filter] at h
  obtain ⟨f, hf, rfl⟩ := List.mem_map.mp h.1
  refine ⟨of_decide_eq_true h.2, strip_strip f, fun comma => out f hf ?_⟩
  rw [strip, String.toList_ofList] at comma
  exact trim_subset _ comma

/-- **Lists with commas**: parts are read from a text exactly if they can be parts and stand in its
fields, in their order and each of them once. -/
lemma commaList_eq_iff : commaList s = parts ↔
    (∀ part ∈ parts, IsPart part) ∧ ∃ fields, Spread parts fields ∧ joined "," fields = s := by
  constructor
  · rintro rfl
    obtain ⟨fields, out, rfl⟩ := exists_fields s
    refine ⟨fun part => isPart_of_mem_commaList, fields, ?_, rfl⟩
    rw [commaList_joined out]
    exact .of_fields fields
  · rintro ⟨plain, fields, stands, rfl⟩
    rw [commaList_joined (stands.no_comma plain), stands.filter_strip plain]

lemma spread_self (parts : List String) : Spread parts parts := by
  induction parts with
  | nil => exact .nil
  | cons part rest ih =>
    have stands := Spread.part part isGap_empty isGap_empty ih
    rwa [String.append_empty, String.empty_append] at stands

lemma commaList_commaList (s : String) : commaList (joined "," (commaList s)) = commaList s :=
  commaList_eq_iff.mpr ⟨fun _ => isPart_of_mem_commaList, _, spread_self _, rfl⟩

lemma registries_of_load {env : Env} {settings : Settings} (h : load env = .ok settings) :
    settings.aws.registries = commaList (env.getD "ECR_REGISTRIES" "711395599931") := by
  unfold load at h
  dsimp only at h
  split at h
  · cases h
  · cases h
    rfl

end Settings

end ImageRelease
