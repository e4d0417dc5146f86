import Mathlib.Tactic.Common
import ImageRelease.Ecr
import ImageRelease.Hub

/-!
What a session can go through, step by step.

Each step puts one event into the journal and changes nothing that the event does not stand for: a
line and a value to mask change the journal alone, a command takes the next outcome of the script,
and a question takes the time of the reply. A step also says when it may be taken: commands are
started outside of dry runs only, and nothing that is secret goes to one before it is masked. What
holds of every step holds of every action that is made of steps.
-/

namespace ImageRelease

/-- How commands are run: shown only or started, and with which credentials at hand. -/
structure Manner where
  dryRun : Bool
  aws : Aws

namespace Session

/-- The values that a journal masks, in the order in which they became known. -/
def secretsOf (journal : List Event) : List String :=
  journal.filterMap Event.secret?

@[simp] lemma secretsOf_append (old new : List Event) :
    secretsOf (old ++ new) = secretsOf old ++ secretsOf new :=
  List.filterMap_append

lemma secrets_eq (s : Session) : s.secrets = secretsOf s.journal := rfl

/-- What the next command will do. -/
def nextOutcome (s : Session) : Outcome :=
  s.script.head?.getD {}

/-- The world after its next command. -/
def proceed (s : Session) : Session :=
  { s with
    clock := s.clock + s.nextOutcome.elapsed
    files := s.files.apply s.nextOutcome.changes
    script := s.script.drop 1 }

/-- The world after the registry has replied. -/
def replied (s : Session) : Session :=
  { s with clock := s.clock + s.replyTime }

lemma secrets_noted (s : Session) (e : Event) :
    (s.noted e).secrets = s.secrets ++ e.secret?.toList := by
  cases h : e.secret? <;> simp [secrets, noted, h]

/-- One step, with the event that it puts into the journal. -/
inductive Step (m : Manner) : Session → Event → Session → Prop
  | logged (s : Session) (level : Level) (text : String) :
      Step m s (.logged level text) (s.noted (.logged level text))
  | masked (s : Session) (secret : String) (some : secret ≠ "") (new : secret ∉ s.secrets) :
      Step m s (.masked secret) (s.noted (.masked secret))
  | rehearsed (s : Session) (c : Command) (dry : m.dryRun = true) :
      Step m s (.command c .rehearsed) (s.noted (.command c .rehearsed))
  | started (s : Session) (c : Command) (earnest : m.dryRun = false)
      (input : ∀ i, c.input = some i → i = "" ∨ i ∈ s.secrets)
      (env : c.env = none ∨ c.env = some (Entries.merge s.env m.aws.environment)) :
      Step m s (.command c (.started s.nextOutcome.ending))
        (s.proceed.noted (.command c (.started s.nextOutcome.ending)))
  | asked (s : Session) (url : String) (earnest : m.dryRun = false) :
      Step m s (.lookup url s.reply) (s.replied.noted (.lookup url s.reply))

/-- Any number of steps, with the events that they put into the journal. -/
inductive Leads (m : Manner) : Session → List Event → Session → Prop
  | nil (s : Session) : Leads m s [] s
  | cons {s t u : Session} {e : Event} {new : List Event} (step : Step m s e t)
      (rest : Leads m t new u) : Leads m s (e :: new) u

variable {m : Manner} {s t u : Session} {e : Event} {new old : List Event}

lemma Leads.single (h : Step m s e t) : Leads m s [e] t := .cons h (.nil t)

lemma Leads.append (h : Leads m s old t) (h' : Leads m t new u) : Leads m s (old ++ new) u := by
  induction h with
  | nil => exact h'
  | cons step _ ih => exact .cons step (ih h')

lemma Leads.split (h : Leads m s (old ++ new) u) : ∃ t, Leads m s old t ∧ Leads m t new u := by
  induction old generalizing s with
  | nil => exact ⟨s, .nil s, h⟩
  | cons e old ih =>
    cases h with
    | cons step rest =>
      obtain ⟨t, left, right⟩ := ih rest
      exact ⟨t, .cons step left, right⟩

lemma Step.journal (h : Step m s e t) : t.journal = s.journal ++ [e] := by
  cases h <;> rfl

lemma Leads.journal (h : Leads m s new t) : t.journal = s.journal ++ new := by
  induction h with
  | nil => simp
  | cons step _ ih => rw [ih, step.journal]; simp

lemma Leads.secrets (h : Leads m s new t) :
    t.secrets = s.secrets ++ new.filterMap Event.secret? := by
  unfold Session.secrets
  rw [h.journal, List.filterMap_append]

lemma Leads.mem_secrets (h : Leads m s new t) {secret : String} (hs : secret ∈ s.secrets) :
    secret ∈ t.secrets := by
  rw [h.secrets]
  exact List.mem_append_left _ hs

/-! ### What no step changes -/

lemma Leads.env (h : Leads m s new t) : t.env = s.env := by
  induction h with
  | nil => rfl
  | cons step _ ih => rw [ih]; cases step <;> rfl

lemma Leads.reply (h : Leads m s new t) : t.reply = s.reply := by
  induction h with
  | nil => rfl
  | cons step _ ih => rw [ih]; cases step <;> rfl

lemma Leads.interpreter (h : Leads m s new t) : t.interpreter = s.interpreter := by
  induction h with
  | nil => rfl
  | cons step _ ih => rw [ih]; cases step <;> rfl

/-! ### What commands change -/

def startedIn (new : List Event) : Nat :=
  (new.filterMap Event.call?).length

def filesAfter (s : Session) (n : Nat) : FileTree :=
  (s.script.take n).foldl (fun files o => files.apply o.changes) s.files

lemma filesAfter_succ (s : Session) (n : Nat) : s.filesAfter (n + 1) = s.proceed.filesAfter n := by
  rcases hs : s.script with _ | ⟨o, rest⟩
  · simp [filesAfter, proceed, nextOutcome, hs, FileTree.apply]
  · simp [filesAfter, proceed, nextOutcome, hs]

/-- The files change with the commands that are started, each as the script has it. -/
lemma Leads.filesAfter (h : Leads m s new t) (n : Nat) :
    t.filesAfter n = s.filesAfter (startedIn new + n) := by
  induction h with
  | nil => simp [startedIn]
  | @cons s t u e new step _ ih =>
    rw [ih]
    cases step with
    | started c =>
      have hn : startedIn (.command c (.started s.nextOutcome.ending) :: new) + n =
          startedIn new + n + 1 := by
        simp [startedIn, Event.call?]
        omega
      rw [hn, filesAfter_succ]
      rfl
    | logged => rfl
    | masked => rfl
    | rehearsed => rfl
    | asked => rfl

lemma Leads.files (h : Leads m s new t) : t.files = s.filesAfter (startedIn new) :=
  h.filesAfter 0

@[simp] lemma places_filesAfter (s : Session) (n : Nat) :
    (s.filesAfter n).places = s.files.places := by
  induction n generalizing s with
  | zero => rfl
  | succ n ih => rw [filesAfter_succ, ih]; exact FileTree.places_apply _ _

lemma Leads.places (h : Leads m s new t) : t.files.places = s.files.places := by
  rw [h.files, places_filesAfter]

lemma Leads.earnest (h : Leads m s new t) {c : Command} {e : Ending}
    (hc : .command c (.started e) ∈ new) : m.dryRun = false := by
  induction h with
  | nil => cases hc
  | cons step _ ih =>
    rcases List.mem_cons.mp hc with rfl | hc
    · cases step with
      | started c earnest => exact earnest
    · exact ih hc

/-! ### The clock -/

/-- What a clock may still show: what it shows now, and what it shows after commands and
replies. -/
inductive Shows (replyTime : Float) : Float → List Outcome → Float → Prop
  | now (clock : Float) (script : List Outcome) : Shows replyTime clock script clock
  | command {clock later : Float} {script : List Outcome}
      (h : Shows replyTime (clock + (script.head?.getD {}).elapsed) (script.drop 1) later) :
      Shows replyTime clock script later
  | reply {clock later : Float} {script : List Outcome}
      (h : Shows replyTime (clock + replyTime) script later) : Shows replyTime clock script later

/-- A reading of the clock that the session can come to. -/
def MayShow (s : Session) (reading : Float) : Prop :=
  Shows s.replyTime s.clock s.script reading

/-- The clock is sound: between any two of its readings lies a span that has a length in whole
milliseconds. A clock that counts the time of a machine always shows a finite number. -/
def Timely (s : Session) : Prop :=
  ∀ earlier later, s.MayShow earlier → s.MayShow later →
    ∃ n, wholeMilliseconds earlier later = .ok n

lemma mayShow_clock (s : Session) : s.MayShow s.clock := .now _ _

lemma Step.mayShow (h : Step m s e t) {reading : Float} (hr : t.MayShow reading) :
    s.MayShow reading := by
  cases h with
  | started => exact .command hr
  | asked => exact .reply hr
  | logged => exact hr
  | masked => exact hr
  | rehearsed => exact hr

lemma Leads.mayShow (h : Leads m s new t) {reading : Float} (hr : t.MayShow reading) :
    s.MayShow reading := by
  induction h with
  | nil => exact hr
  | cons step _ ih => exact step.mayShow (ih hr)

lemma Leads.timely (h : Leads m s new t) (ht : s.Timely) : t.Timely :=
  fun _ _ he hl => ht _ _ (h.mayShow he) (h.mayShow hl)

lemma timely_of_still {s : Session} (hc : s.clock = 0) (hr : s.replyTime = 0)
    (ho : ∀ o ∈ s.script, o.elapsed = 0) : s.Timely := by
  have zero : ∀ (clock : Float) (script : List Outcome) (reading : Float),
      Shows 0 clock script reading → clock = 0 → (∀ o ∈ script, o.elapsed = 0) → reading = 0 := by
    intro clock script reading h
    have still : (0 : Float) + 0 = 0 := by decide +kernel
    induction h with
    | now => exact fun hc _ => hc
    | @command clock later script _ ih =>
      rintro rfl ho
      refine ih ?_ fun o h => ho o (List.mem_of_mem_drop h)
      rcases script with _ | ⟨o, rest⟩
      · exact still
      · rw [List.head?_cons, Option.getD_some, ho o (by simp)]
        exact still
    | reply _ ih =>
      rintro rfl ho
      exact ih still ho
  intro earlier later he hl
  unfold MayShow at he hl
  rw [hr] at he hl
  rw [zero _ _ _ he hc ho, zero _ _ _ hl hc ho]
  have none : Number.view (millisecondsSince 0 0) = .finite false 0 Number.leastExponent := by
    decide +kernel
  exact ⟨Number.truncate (millisecondsSince 0 0), by simp only [wholeMilliseconds, none]⟩

end Session

@[simp] lemma run_start (c : Command) (s : Session) :
    (start c).run s = (.ok s.nextOutcome.ending,
      s.proceed.noted (.command c (.started s.nextOutcome.ending))) := rfl

@[simp] lemma run_ask (url : String) (s : Session) :
    (Hub.ask url).run s = (.ok s.reply, s.replied.noted (.lookup url s.reply)) := rfl

end ImageRelease
