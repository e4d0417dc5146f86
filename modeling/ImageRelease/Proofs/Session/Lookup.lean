import ImageRelease.Proofs.Session.Commands

/-!
Lookups along plans.

A lookup is one move, if the url can be asked at all, and what comes of it is settled by the reply
of the registry: `fetch_leads` and `exists?_leads` say both. Only a tag that the registry does not
know lets a release go on.
-/

namespace ImageRelease

open Session Act

namespace Hub

/-- The address that is sent for a url. -/
def sent (url : String) : String :=
  match target url with
  | .ok a => a.sent
  | .error _ => url

/-- What a lookup brings where the registry gives a reply; nothing else of the session counts. -/
def answer (url : String) (reply : Reply) : Except Failure (Response × List UInt8) :=
  ((fetch url).run { reply, identifier := "" }).1

/-- What an answer says of a tag. -/
def verdict (url : String) (r : Response) (content : List UInt8) : Except Failure Bool :=
  if r.status = 200 then .ok true
  else if r.status = 404 then .ok false
  else match r.text content with
    | .ok body => .error (.rejected (.registryQuery url r.status body))
    | .error fault => .error (.notRead fault)

/-- Whether the registry has a tag, by what a lookup brings. -/
def found (url : String) (reply : Reply) : Except Failure Bool :=
  match answer url reply with
  | .ok (r, content) => verdict url r content
  | .error e => .error e

/-- The events of a lookup: none if the url cannot be asked, and else the question and lines. -/
def Looked (url : String) (reply : Reply) (new : List Event) : Prop :=
  (∃ e, target url = .error e) ∧ movesOf new = [] ∨
    ∃ rest, new = .lookup (sent url) reply :: rest ∧ movesOf rest = []

variable {m : Manner} {url : String} {reply : Reply} {old new : List Event}

lemma Looked.append_quiet (h : Looked url reply old) (hq : movesOf new = []) :
    Looked url reply (old ++ new) := by
  rcases h with ⟨he, ho⟩ | ⟨rest, rfl, hr⟩
  · exact .inl ⟨he, by rw [movesOf_append, ho, hq, List.append_nil]⟩
  · exact .inr ⟨rest ++ new, rfl, by rw [movesOf_append, hr, hq, List.append_nil]⟩

/-- What a response is worth does not hang on the session, and is told in lines only. -/
lemma receive_leads (m : Manner) (url : String) (a : Url.Address) (r : Response) (s : Session) :
    ∃ new, s.Leads m new ((receive url a r).run s).2 ∧ movesOf new = [] ∧
      ∀ t, ((receive url a r).run s).1 = ((receive url a r).run t).1 := by
  unfold receive
  split
  · exact ⟨[], .nil s, rfl, fun _ => rfl⟩
  · exact ⟨[], .nil s, rfl, fun _ => rfl⟩
  · split
    · exact ⟨[], .nil s, rfl, fun _ => rfl⟩
    · split
      · exact ⟨[], .nil s, rfl, fun _ => rfl⟩
      · exact ⟨[_], .single (.logged s _ _), rfl, fun _ => rfl⟩
      · exact ⟨[], .nil s, rfl, fun _ => rfl⟩
      · exact ⟨[], .nil s, rfl, fun _ => rfl⟩

lemma receive_ok {a : Url.Address} {r r' : Response} {content : List UInt8} {s : Session}
    (h : ((receive url a r).run s).1 = .ok (r', content)) : r' = r := by
  unfold receive at h
  split at h
  · cases h
  · cases h
  · split at h
    · cases h
    · split at h
      · cases h; rfl
      · cases h
      · cases h
      · cases h

lemma fetch_leads (hm : m.dryRun = false) (url : String) (s : Session) :
    ∃ new, s.Leads m new ((fetch url).run s).2 ∧ Looked url s.reply new ∧
      ((fetch url).run s).1 = answer url s.reply := by
  unfold answer fetch
  simp only [run_bind, run_ofExcept]
  cases ht : target url with
  | error e => exact ⟨[], .nil s, .inl ⟨⟨e, ht⟩, rfl⟩, rfl⟩
  | ok a =>
    have asking : s.Leads m [.lookup (sent url) s.reply]
        (s.replied.noted (.lookup a.sent s.reply)) := by
      have hs : sent url = a.sent := by rw [sent, ht]
      rw [hs]
      exact .single (.asked s a.sent hm)
    simp only [run_ask]
    rcases hr : s.reply with r | message | ⟨fault, message⟩
    · obtain ⟨new, lead, quiet, same⟩ := receive_leads m url a r
        (s.replied.noted (.lookup a.sent (.response r)))
      rw [hr] at asking
      exact ⟨_ :: new, asking.append lead, .inr ⟨new, rfl, quiet⟩, same _⟩
    · rw [hr] at asking
      exact ⟨[_, _], asking.append (.single (.logged _ _ _)), .inr ⟨[_], rfl, rfl⟩, rfl⟩
    · rw [hr] at asking
      exact ⟨[_], asking, .inr ⟨[], rfl, rfl⟩, rfl⟩

lemma answer_ok {r : Response} {content : List UInt8} (h : answer url reply = .ok (r, content)) :
    reply = .response r := by
  unfold answer fetch at h
  simp only [run_bind, run_ofExcept] at h
  cases ht : target url with
  | error e => rw [ht] at h; cases h
  | ok a =>
    rw [ht] at h
    cases reply with
    | noConnection message => cases h
    | fault fault message => cases h
    | response r' => rw [receive_ok h]

lemma found_of_no_target {e : Failure} (h : target url = .error e) :
    found url reply = .error e := by
  simp [found, answer, fetch, run_bind, h]

/-- Where no connection comes about, the lookup fails with status 0 and with what was said. -/
lemma answer_noConnection {a : Url.Address} (h : target url = .ok a) (message : String) :
    answer url (.noConnection message) = .error (.rejected (.registryQuery url 0 message)) := by
  simp [answer, fetch, run_bind, h, giveUp]

/-- A tag that the registry does not know is one that it answers 404 for. -/
lemma free_of_found (h : found url reply = .ok false) : reply.Free := by
  unfold found at h
  split at h
  · case h_1 r content ha =>
    rw [answer_ok ha]
    unfold verdict at h
    split at h
    · cases h
    · split at h
      · assumption
      · split at h <;> cases h
  · cases h

lemma exists?_leads (hm : m.dryRun = false) (h : Hub) (repository tag : String) (s : Session) :
    ∃ new, s.Leads m new ((h.exists? repository tag).run s).2 ∧
      Looked (h.tagUrl repository tag) s.reply new ∧
      ((h.exists? repository tag).run s).1 = found (h.tagUrl repository tag) s.reply := by
  obtain ⟨old, lead, looked, same⟩ := fetch_leads hm (h.tagUrl repository tag) s
  unfold exists? found
  rcases hf : (fetch (h.tagUrl repository tag)).run s with ⟨e | ⟨r, content⟩, t⟩
  · rw [run_bind_of_error hf]
    rw [hf] at lead same
    rw [← same]
    exact ⟨old, lead, looked, rfl⟩
  · rw [run_bind_of_ok hf]
    rw [hf] at lead same
    rw [← same]
    unfold verdict
    dsimp only
    split
    · exact ⟨_, lead.append (.single (.logged t _ _)), looked.append_quiet rfl, rfl⟩
    · split
      · exact ⟨old, lead, looked, rfl⟩
      · cases r.text content <;> exact ⟨old, lead, looked, rfl⟩

/-- The lookup of a tag is one move, if it goes on only where the registry does not know the tag. -/
lemma Looked.along (h : Looked url reply new) {ok : Bool}
    (hok : ok = true → found url reply = .ok false) : Along [.lookup (sent url)] new ok := by
  rcases h with ⟨⟨e, he⟩, hq⟩ | ⟨rest, rfl, hq⟩
  · cases ok with
    | false => exact (Along.of_quiet hq false).cut _
    | true => exact nomatch (found_of_no_target he).symm.trans (hok rfl)
  · have asking : Along [.lookup (sent url)] [.lookup (sent url) reply] ok := by
      refine .single rfl fun hf => ?_
      cases ok with
      | false => rfl
      | true => exact absurd (free_of_found (hok rfl)) hf
    exact asking.append_quiet hq

end Hub

end ImageRelease
