import CatalogSync.Load.BulkIndex
import CatalogSync.Proofs.Load.BulkBody
import CatalogSync.Proofs.Retry.Attempts
import Mathlib.Logic.Function.Basic

/-!
# Bulk writes and their replays

A server may carry out any part of a request whose answer does not arrive. A batch that is posted
once more is written under the same ids, so whatever was carried out of it before is hidden by the
whole of it, however often an id occurs in it. Only the last answer is counted.
-/

namespace CatalogSync

/-- What a server holds: the text of a document under an index and an id. -/
abbrev Stored := BulkAction → Option (List Char)

/-- What is to be written, in order. -/
abbrev Upserts := List (BulkAction × List Char)

/-- What the body of a batch asks for. -/
def Batch.upserts (index : String) (batch : Batch) : Upserts :=
  batch.map fun e => (⟨index, e.id⟩, e.source.write)

namespace Stored

variable {m m' : Stored} {us : Upserts}

def apply (m : Stored) (us : Upserts) : Stored :=
  us.foldl (fun m u => Function.update m u.1 (some u.2)) m

/-- Nothing but what is written under counts for what is held afterwards. -/
theorem apply_congr (h : ∀ a, (∀ u ∈ us, u.1 ≠ a) → m a = m' a) : m.apply us = m'.apply us := by
  induction us generalizing m m' with
  | nil =>
    funext a
    exact h a (List.forall_mem_nil _)
  | cons u rest ih =>
    apply ih
    intro a hrest
    by_cases hu : u.1 = a
    · subst hu
      simp
    · have hkept := h a (List.forall_mem_cons.2 ⟨hu, hrest⟩)
      simpa [Function.update_of_ne (Ne.symm hu)] using hkept

/-- Actions on other documents leave a document as it is. -/
theorem apply_of_forall_ne {a : BulkAction} (h : ∀ u ∈ us, u.1 ≠ a) : m.apply us a = m a := by
  induction us generalizing m with
  | nil => rfl
  | cons u rest ih =>
    obtain ⟨hu, hrest⟩ := List.forall_mem_cons.1 h
    exact (ih hrest).trans (Function.update_of_ne (Ne.symm hu) ..)

/-- What was carried out of a request before is hidden by all of it. -/
theorem apply_apply {part : Upserts} (h : part ⊆ us) : (m.apply part).apply us = m.apply us :=
  apply_congr fun _ ha => apply_of_forall_ne fun u hu => ha u (h hu)

end Stored

/-- An answer comes to a result, cannot be read, or stands for a failure. -/
theorem BulkIndex.judge_cases (sent : Nat) (r : Http.Response) :
    (∃ reply, r.isSuccess ∧ BulkReply.parse? r.body = some reply ∧
      judge sent r = .ok ⟨sent, reply.accepted⟩) ∨
    (∃ detail, r.isSuccess ∧ judge sent r = .error (.response detail)) ∨
    judge sent r = .error (.http r.status r.body) := by
  unfold judge
  by_cases hsuccess : r.isSuccess
  · rw [if_pos hsuccess]
    cases hreply : BulkReply.parse? r.body with
    | none => exact .inr (.inl ⟨_, hsuccess, rfl⟩)
    | some reply => exact .inl ⟨reply, hsuccess, rfl, rfl⟩
  · exact .inr (.inr (if_neg hsuccess))

/-- No success is a reason to post again. -/
theorem Http.Response.status_notMem_of_isSuccess {r : Http.Response} (h : r.isSuccess) :
    r.status ∉ [429, 502, 503, 504] := by
  simp only [isSuccess, Http.isSuccess, Bool.and_eq_true, decide_eq_true_eq] at h
  simp only [List.mem_cons, List.not_mem_nil, or_false]
  omega

/-- What becomes of a request: how much of it is carried out, and what is answered, if anything. -/
structure BulkFate where
  applied : Nat
  answer : Except String Http.Response

namespace BulkFate

/-- The request was not answered, or the server is overloaded or not there for the moment. -/
def IsPassing (f : BulkFate) : Prop :=
  match f.answer with
  | .error _ => True
  | .ok r => r.status ∈ [429, 502, 503, 504]

/-- What the answer to a request with so many documents comes to. -/
def outcome (f : BulkFate) (sent : Nat) : Outcome LoadError LoadResult :=
  match f.answer with
  | .error detail => .error (.connection detail)
  | .ok r => .ofExcept (BulkIndex.judge sent r)

/-- A fate is transient exactly if it passes. -/
theorem isTransient_outcome_iff (f : BulkFate) (sent : Nat) :
    (f.outcome sent).IsTransient ↔ f.IsPassing := by
  unfold outcome IsPassing
  rcases f.answer with detail | r
  · exact iff_of_true ⟨_, rfl, rfl⟩ trivial
  · obtain ⟨reply, hsuccess, -, hjudge⟩ | ⟨detail, hsuccess, hjudge⟩ | hjudge :=
      BulkIndex.judge_cases sent r
    · refine iff_of_false ?_ (Http.Response.status_notMem_of_isSuccess hsuccess)
      simp [hjudge, Outcome.ofExcept, Outcome.IsTransient]
    · refine iff_of_false ?_ (Http.Response.status_notMem_of_isSuccess hsuccess)
      simp [hjudge, Outcome.ofExcept, Outcome.IsTransient, Retryable.isTransient,
        LoadError.isTransient]
    · simp only [hjudge, Outcome.ofExcept, Outcome.IsTransient, Outcome.error.injEq,
        exists_eq_left', Retryable.isTransient, LoadError.isTransient,
        LoadError.isTransientStatus, Bool.or_eq_true, decide_eq_true_eq, List.mem_cons,
        List.not_mem_nil, or_false, or_assoc]

/-- Whatever its fate, a request comes to an end. -/
theorem outcome_ne_unfinished (f : BulkFate) (sent : Nat) : f.outcome sent ≠ .unfinished := by
  unfold outcome
  rcases f.answer with detail | r
  · simp
  · cases hjudge : BulkIndex.judge sent r <;> simp [hjudge, Outcome.ofExcept]

/-- Only an answer that stands for success and can be read comes to a result. -/
theorem outcome_eq_ok {f : BulkFate} {sent : Nat} {result : LoadResult}
    (h : f.outcome sent = .ok result) :
    ∃ r reply, f.answer = .ok r ∧ r.isSuccess ∧ BulkReply.parse? r.body = some reply ∧
      result = ⟨sent, reply.accepted⟩ := by
  unfold outcome at h
  rcases hanswer : f.answer with detail | r <;> rw [hanswer] at h
  · cases h
  · obtain ⟨reply, hsuccess, hreply, hjudge⟩ | ⟨detail, -, hjudge⟩ | hjudge :=
      BulkIndex.judge_cases sent r <;> simp only [hjudge, Outcome.ofExcept] at h
    · cases h
      exact ⟨r, reply, rfl, hsuccess, hreply, rfl⟩
    · cases h
    · cases h

end BulkFate

/-- A server behind a client: what it holds, and the requests that reached it. -/
structure BulkServer where
  stored : Stored
  requests : List Http.Request

/-- A client whose requests meet their fates in order. -/
def BulkServer.client (script : Nat → BulkFate) : Http.Client BulkServer where
  send r s :=
    let fate := script s.requests.length
    (.ofExcept fate.answer, ⟨s.stored.apply (((BulkBody.read? r.body.toList).getD []).take
      fate.applied), s.requests ++ [r]⟩)

namespace BulkReply

variable {reply : BulkReply} {sent : Nat}

/-- The accepted entries are those with a status of success. -/
theorem accepted_eq_countP (reply : BulkReply) :
    reply.accepted = (reply.items.flatMap NameMap.values).countP fun a =>
      200 ≤ a.status ∧ a.status < 300 := by
  rw [accepted, List.countP_eq_length_filter]
  simp only [Bool.decide_and]
  rfl

/-- An answer that says no more than one thing of every document accepts all of them exactly if it
says of all of them that they were. -/
theorem sent_eq_accepted_iff (hlength : reply.items.length ≤ sent)
    (hsingle : ∀ item ∈ reply.items, item.values.length = 1) :
    sent = reply.accepted ↔ reply.items.length = sent ∧
      ∀ item ∈ reply.items, ∀ a ∈ item.values, 200 ≤ a.status ∧ a.status < 300 := by
  have hvalues : (reply.items.flatMap NameMap.values).length = reply.items.length := by
    rw [List.length_flatMap, List.map_congr_left hsingle]
    simp
  have hle : reply.accepted ≤ reply.items.length := by
    rw [accepted_eq_countP, ← hvalues]
    exact List.countP_le_length
  have hall : reply.accepted = reply.items.length ↔ ∀ item ∈ reply.items, ∀ a ∈ item.values,
      200 ≤ a.status ∧ a.status < 300 := by
    rw [accepted_eq_countP, ← hvalues, List.countP_eq_length]
    simp only [List.mem_flatMap, decide_eq_true_eq]
    exact ⟨fun h item hitem a ha => h a ⟨item, hitem, ha⟩,
      fun h a ⟨item, hitem, ha⟩ => h item hitem a ha⟩
  rw [← hall]
  omega

end BulkReply

namespace BulkIndex

variable {φ ω : Type} (i : BulkIndex φ)

/-- The requests that write a batch. -/
def posting (client : Http.Client ω) (batch : Batch) : RetryLoop φ LoadError ω LoadResult where
  policy := i.policy
  operation := "elasticsearch bulk"
  pause _ s := s
  call := i.post client (BulkBody.text i.index batch) batch.length

/-- Writing a batch that is not empty is one loop of requests with its body. -/
theorem write_eq [Growth φ] (client : Http.Client ω) {batch : Batch} (hbatch : batch ≠ [])
    (allowance : Nat) (s : ω) :
    i.write client allowance batch s = (((i.posting client batch).run allowance s).1,
      ((i.posting client batch).run allowance s).2.1) := by
  cases batch with
  | nil => exact absurd rfl hbatch
  | cons e rest => rfl

/-- What a server holds after so many requests of a batch. -/
def storedAfter (batch : Batch) (script : Nat → BulkFate) (stored : Stored) : Nat → Stored
  | 0 => stored
  | n + 1 => (storedAfter batch script stored n).apply
      ((batch.upserts i.index).take (script n).applied)

/-- A server after so many requests of a batch. -/
def serverAfter (batch : Batch) (script : Nat → BulkFate) (stored : Stored) (n : Nat) :
    BulkServer :=
  ⟨i.storedAfter batch script stored n,
    List.replicate n (i.bulkRequest (BulkBody.text i.index batch))⟩

variable (batch : Batch) (script : Nat → BulkFate) (stored : Stored)

/-- Whatever was carried out of a batch is hidden by all of it. -/
theorem apply_storedAfter (n : Nat) :
    (i.storedAfter batch script stored n).apply (batch.upserts i.index) =
      stored.apply (batch.upserts i.index) := by
  induction n with
  | zero => rfl
  | succ n ih => exact (Stored.apply_apply (List.take_subset ..)).trans ih

/-- A server that carries out all of the last request holds the batch as if nothing was before. -/
theorem storedAfter_succ {n : Nat} (h : batch.length ≤ (script n).applied) :
    i.storedAfter batch script stored (n + 1) = stored.apply (batch.upserts i.index) := by
  have hall : (batch.upserts i.index).take (script n).applied = batch.upserts i.index :=
    List.take_of_length_le (by rwa [Batch.upserts, List.length_map])
  rw [storedAfter, hall]
  exact i.apply_storedAfter batch script stored n

/-- The request meets its fate and leaves the server one request further. -/
theorem post_serverAfter (n : Nat) :
    (i.posting (BulkServer.client script) batch).call (i.serverAfter batch script stored n) =
      ((script n).outcome batch.length, i.serverAfter batch script stored (n + 1)) := by
  have hread : BulkBody.read? (i.bulkRequest (BulkBody.text i.index batch)).body.toList =
      some (batch.upserts i.index) :=
    (congrArg BulkBody.read? (BulkBody.toList_text ..)).trans (BulkBody.read?_write ..)
  have hlength : (i.serverAfter batch script stored n).requests.length = n := List.length_replicate
  have hsend : (send (BulkServer.client script)
      (i.bulkRequest (BulkBody.text i.index batch))) (i.serverAfter batch script stored n) =
        ((Outcome.ofExcept (script n).answer).mapError .connection,
          i.serverAfter batch script stored (n + 1)) := by
    simp only [send, Call.mapError, BulkServer.client, hlength, hread, Option.getD_some]
    rw [serverAfter, serverAfter, storedAfter, List.replicate_succ']
  rcases hanswer : (script n).answer with detail | r
  · rw [hanswer] at hsend
    simp only [posting, post, BulkFate.outcome, hanswer]
    exact Call.bind_of_error hsend
  · rw [hanswer] at hsend
    simp only [posting, post, BulkFate.outcome, hanswer]
    exact Call.bind_of_ok hsend

variable [Growth φ]

/-- Every request finds the server as the ones before it left it. -/
theorem found_posting (n : Nat) :
    (i.posting (BulkServer.client script) batch).found ⟨stored, []⟩ n =
      i.serverAfter batch script stored n := by
  induction n with
  | zero => rfl
  | succ n ih =>
    rw [RetryLoop.found, ih, post_serverAfter]
    rfl

/-- Every request meets the fate that is next in line. -/
theorem attempt_posting (n : Nat) :
    (i.posting (BulkServer.client script) batch).attempt ⟨stored, []⟩ n =
      ((script n).outcome batch.length, i.serverAfter batch script stored (n + 1)) := by
  rw [RetryLoop.attempt, found_posting, post_serverAfter]

/-- How often a batch is posted, and what the last answer has to do with how the write ends. -/
theorem write_cases {batch : Batch} (hbatch : batch ≠ []) {allowance : Nat}
    {o : Outcome LoadError LoadResult} {server : BulkServer}
    (h : i.write (BulkServer.client script) allowance batch ⟨stored, []⟩ = (o, server)) :
    ∃ n : Nat, server = i.serverAfter batch script stored n ∧ n ≤ i.policy.limit ∧
      (∀ k, k + 1 < n → (script k).IsPassing) ∧
      ((∃ last, n = last + 1 ∧ o = (script last).outcome batch.length) ∨
        o = .unfinished ∧ allowance < i.policy.limit ∧ ∀ k < allowance, (script k).IsPassing) := by
  have hpassing (k : Nat) : ((i.posting (BulkServer.client script) batch).attempt
      ⟨stored, []⟩ k).1.IsTransient ↔ (script k).IsPassing := by
    rw [attempt_posting, BulkFate.isTransient_outcome_iff]
  rw [i.write_eq _ hbatch] at h
  obtain ⟨n, hn, hlast⟩ | ⟨hbefore, hlimit, hrun⟩ :=
    (i.posting (BulkServer.client script) batch).run_cases ⟨stored, []⟩ allowance
  · rw [hlast.run_eq hn, attempt_posting] at h
    obtain ⟨rfl, rfl⟩ := Prod.mk.inj h
    refine ⟨n + 1, rfl, ENat.natCast_add_one_le_iff.2 hlast.lt_limit, fun k hk => ?_,
      .inl ⟨n, rfl, rfl⟩⟩
    exact (hpassing k).1 (hlast.before k (Nat.lt_of_succ_lt_succ hk))
  · rw [hrun, found_posting] at h
    obtain ⟨rfl, rfl⟩ := Prod.mk.inj h
    have hall (k : Nat) (hk : k < allowance) := (hpassing k).1 (hbefore k hk)
    exact ⟨allowance, rfl, hlimit.le, fun k hk => hall k (Nat.lt_of_succ_lt hk),
      .inr ⟨rfl, hlimit, hall⟩⟩

/-- A batch is posted with one body, again only after an answer that may pass and within the limit.
What comes of it is counted in the last answer alone, and whatever was carried out before an answer
was lost, a last request that is carried out writes the batch as if it were the only one. -/
theorem write_replays (i : BulkIndex φ) (allowance : Nat) (batch : Batch) (script : Nat → BulkFate)
    (stored : Stored) {o : Outcome LoadError LoadResult} {server : BulkServer}
    (h : i.write (BulkServer.client script) allowance batch ⟨stored, []⟩ = (o, server)) :
    (batch = [] → o = .ok ⟨0, 0⟩ ∧ server = ⟨stored, []⟩) ∧
    (batch ≠ [] →
      (∀ r ∈ server.requests, r = i.bulkRequest (BulkBody.text i.index batch)) ∧
      server.requests.length ≤ i.policy.limit ∧
      (∀ k, k + 1 < server.requests.length → (script k).IsPassing) ∧
      (i.policy.limit ≤ allowance ∨ (∃ k < allowance, ¬ (script k).IsPassing) →
        o ≠ .unfinished) ∧
      (∀ result, o = .ok result → ∃ last r reply, server.requests.length = last + 1 ∧
        (script last).answer = .ok r ∧ r.isSuccess ∧ BulkReply.parse? r.body = some reply ∧
        result = ⟨batch.length, (reply.items.flatMap NameMap.values).countP fun a =>
          200 ≤ a.status ∧ a.status < 300⟩ ∧
        (reply.items.length ≤ batch.length → (∀ item ∈ reply.items, item.values.length = 1) →
          (result.IsVerified ↔ reply.items.length = batch.length ∧
            ∀ item ∈ reply.items, ∀ a ∈ item.values, 200 ≤ a.status ∧ a.status < 300))) ∧
      ∀ last, server.requests.length = last + 1 → batch.length ≤ (script last).applied →
        server.stored = stored.apply (batch.upserts i.index)) := by
  refine ⟨?_, fun hbatch => ?_⟩
  · rintro rfl
    cases h
    exact ⟨rfl, rfl⟩
  · obtain ⟨n, rfl, hlimit, hagain, hends⟩ := i.write_cases script stored hbatch h
    have hlength : (i.serverAfter batch script stored n).requests.length = n :=
      List.length_replicate
    rw [hlength]
    refine ⟨fun r hr => List.eq_of_mem_replicate hr, hlimit, hagain, fun hsettles => ?_,
      fun result hresult => ?_, fun last hlast hall => ?_⟩
    · obtain ⟨last, -, rfl⟩ | ⟨-, hless, hpassing⟩ := hends
      · exact (script last).outcome_ne_unfinished batch.length
      · obtain hle | ⟨k, hk, hsettled⟩ := hsettles
        · exact absurd hless (not_lt_of_ge hle)
        · exact absurd (hpassing k hk) hsettled
    · obtain ⟨last, hlast, rfl⟩ | ⟨rfl, -, -⟩ := hends
      · obtain ⟨r, reply, hanswer, hsuccess, hreply, rfl⟩ := BulkFate.outcome_eq_ok hresult
        refine ⟨last, r, reply, hlast, hanswer, hsuccess, hreply, ?_, fun hitems hsingle => ?_⟩
        · rw [reply.accepted_eq_countP]
        · exact BulkReply.sent_eq_accepted_iff hitems hsingle
      · cases hresult
    · subst hlast
      exact i.storedAfter_succ batch script stored hall

/-- Two documents under one id, and one under another between them. -/
def twiceWritten : Batch := [⟨"a", .str "old"⟩, ⟨"b", .null⟩, ⟨"a", .str "new"⟩]

/-- An answer by which an action had each of the statuses. -/
def answering (statuses : List Int) : Http.Response :=
  ⟨200, String.ofList (Json.write (.obj [("items", .arr (statuses.map fun status =>
    .obj [("index", .obj [("status", .int status)])]))]))⟩

/-- Of the first request one document is written, and the answer is lost. -/
def losingAnswer : Nat → BulkFate
  | 0 => ⟨1, .error "connection reset"⟩
  | _ => ⟨3, .ok (answering [200, 201, 200])⟩

/-- An index that is asked three times at most. -/
def patientIndex : BulkIndex ℚ := ⟨"http://localhost:9200", "movies", 10, ⟨1, 2, 4, some 3⟩⟩

/-- How the batch is written when the first answer is lost. -/
def writtenTwice : Outcome LoadError LoadResult × BulkServer :=
  patientIndex.write (BulkServer.client losingAnswer) 4 twiceWritten ⟨fun _ => none, []⟩

/-- The second answer counts, and what was written before it is written over. -/
theorem write_replays_losingAnswer :
    writtenTwice.1 = .ok ⟨3, 3⟩ ∧ writtenTwice.2.requests.length = 2 ∧
      writtenTwice.2.stored = Stored.apply (fun _ => none) (twiceWritten.upserts "movies") := by
  have hresult : writtenTwice.1 = .ok ⟨3, 3⟩ := by decide +kernel
  have hrequests : writtenTwice.2.requests.length = 2 := by decide +kernel
  have hwrite : writtenTwice = (writtenTwice.1, writtenTwice.2) := Prod.mk.eta.symm
  obtain ⟨-, hwritten⟩ :=
    write_replays patientIndex 4 twiceWritten losingAnswer (fun _ => none) hwrite
  obtain ⟨-, -, -, -, -, hstored⟩ := hwritten (by simp [twiceWritten])
  have hall : twiceWritten.length ≤ (losingAnswer 1).applied := Nat.le_refl 3
  exact ⟨hresult, hrequests, hstored 1 hrequests hall⟩

end BulkIndex

end CatalogSync
