import ImageRelease.Proofs.Masking

/-!
Redacted command lines.

The arguments of a command are masked one by one and then put together with spaces. No value without
a space can come about across such a seam, so what was masked in the arguments is hidden in the line
as a whole; a value with a space is hidden as long as there is no seam. Where nothing is to be
masked, the line shows the arguments as they are.
-/

namespace ImageRelease

namespace Text

variable {w a b : List Char} {sep : Char}

lemma infix_of_infix_append (out : sep ∉ w) (h : w <:+: a ++ sep :: b) : w <:+: a ∨ w <:+: b := by
  obtain ⟨before, after, parts⟩ := h
  rcases List.append_eq_append_iff.mp parts with ⟨more, rfl, -⟩ | ⟨rest, reach, behind⟩
  · exact .inl ⟨before, more, rfl⟩
  · rcases rest with _ | ⟨c, rest⟩
    · exact .inl ⟨before, [], by rw [List.append_nil, reach, List.append_nil]⟩
    · -- The separator is in front of the end of `w`, and so it is in front of its start.
      obtain ⟨rfl, rfl⟩ := List.cons.inj behind
      rcases List.append_eq_append_iff.mp reach with ⟨more, -, split⟩ | ⟨more, -, split⟩
      · exact absurd (by rw [split]; simp) out
      · rcases more with _ | ⟨c, more⟩
        · exact absurd (by rw [← List.nil_append w, ← split]; exact List.mem_cons_self) out
        · obtain ⟨-, rfl⟩ := List.cons.inj split
          exact .inr ⟨more, after, rfl⟩

/-- What occurs in texts that are put together, and has no separator, occurs in one of them. -/
lemma infix_of_infix_joined {l : List String} {text : String} (alone : text.toList = [sep])
    (some : w ≠ []) (out : sep ∉ w) (h : w <:+: (joined text l).toList) :
    ∃ x ∈ l, w <:+: x.toList := by
  induction l with
  | nil => exact absurd (List.infix_nil.mp h) some
  | cons x rest ih =>
    rcases rest with _ | ⟨y, rest⟩
    · exact ⟨x, List.mem_cons_self, h⟩
    · rw [toList_joined_cons, alone, List.append_assoc, List.singleton_append] at h
      rcases infix_of_infix_append out h with first | later
      · exact ⟨x, List.mem_cons_self, first⟩
      · obtain ⟨z, hz, found⟩ := ih later
        exact ⟨z, List.mem_cons_of_mem x hz, found⟩

end Text

variable {argv secrets : List String} {secret : String}

/-- A masked value without a space occurs nowhere in a redacted line. -/
lemma hidden_redact (h : Maskable secret) (hs : secret ∈ secrets) (blank : ' ' ∉ secret.toList) :
    Hidden secret (redact argv secrets) := by
  intro found
  have some : secret.toList ≠ [] := fun none => h.1 (String.toList_injective none)
  obtain ⟨text, ht, found⟩ := Text.infix_of_infix_joined rfl some blank found
  obtain ⟨arg, -, rfl⟩ := List.mem_map.mp ht
  exact hidden_masked h hs arg found

/-- Arguments in which there is nothing to mask are shown as they are. -/
lemma redact_of_absent (h : ∀ s ∈ secrets, s ≠ "" → ∀ arg ∈ argv, Hidden s arg) :
    redact argv secrets = Text.joined " " argv := by
  have same : argv.map (masked secrets) = argv.map id :=
    List.map_congr_left fun arg ha => masked_of_absent fun s hs some => h s hs some arg ha
  rw [redact, same, List.map_id]

/-- **Redaction**: whatever the arguments and the registered values are, a value that a mask hides
occurs nowhere in the redacted line if it has no space, and not with a space either where there is
one argument only. A line with nothing to mask consists of the arguments with a space between any
two. -/
theorem redact_hides (argv secrets : List String) :
    (∀ s ∈ secrets, s ≠ "" → '*' ∉ s.toList → ' ' ∉ s.toList →
      ¬s.toList <:+: (redact argv secrets).toList) ∧
    (∀ arg, argv = [arg] → ∀ s ∈ secrets, s ≠ "" → '*' ∉ s.toList →
      ¬s.toList <:+: (redact argv secrets).toList) ∧
    ((∀ s ∈ secrets, s ≠ "" → ∀ arg ∈ argv, ¬s.toList <:+: arg.toList) →
      redact argv secrets = Text.joined " " argv) := by
  refine ⟨fun s hs some star blank => hidden_redact ⟨some, star⟩ hs blank, ?_, redact_of_absent⟩
  rintro arg rfl s hs some star
  exact hidden_masked ⟨some, star⟩ hs arg

/-- Values within one another, twice, empty, of stars and with a space, and a line without any. -/
theorem redact_hides_nested :
    ¬"to".toList <:+: (redact ["--t", "to ken", "*to*"] ["", "token", "to", "*", "to"]).toList ∧
    ¬"to ken".toList <:+: (redact ["-p=to ken"] ["ken", "to ken", "to ken"]).toList ∧
    redact ["docker", "push"] ["", "er  pu"] = "docker push" :=
  ⟨(redact_hides _ _).1 "to" (by decide) (by decide) (by decide) (by decide),
    (redact_hides _ _).2.1 "-p=to ken" rfl "to ken" (by decide) (by decide) (by decide),
    (redact_hides ["docker", "push"] ["", "er  pu"]).2.2 (by decide)⟩

end ImageRelease
