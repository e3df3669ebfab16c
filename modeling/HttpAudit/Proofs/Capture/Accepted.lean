import HttpAudit.Capture.Body
import HttpAudit.Proofs.Text.Utf8

set_option relaxedAutoImplicit false
set_option autoImplicit false

/-!
# What a capture holds

A capture sees the bytes on their way to a sink that may accept only a part of them, be interrupted
or fail at any call. Here it is shown that whatever is done, the capture holds what the sink has
accepted: it counts these bytes, copies them up to the limit, and tells when there are more.

## Main definitions

* `HttpAudit.BodyCapture.Operation`, `HttpAudit.BodyCapture.perform` — what can be done with a
  capture, and what is left afterwards.
* `HttpAudit.BodyCapture.Captured` — a capture of the bytes that the sink has accepted.

## Main results

* `HttpAudit.BodyCapture.Captured.observe` — one call of the sink.
* `HttpAudit.BodyCapture.Captured.perform` — one operation, whether it fails or not.
* `HttpAudit.BodyCapture.logged_after` — any operations, one after the other.
-/

namespace HttpAudit

namespace Sink

/-- A sink that accepts a number of bytes receives the first ones. -/
lemma received_of_write_ok {s t : Sink} {bytes : List UInt8} {n : Nat}
    (h : s.write bytes = (.ok n, t)) : t.received = s.received ++ bytes.take n := by
  unfold write at h
  split at h
  · cases h
  · next most _ =>
    cases h
    have htake : bytes.take (min most bytes.length) = bytes.take most := by
      rw [List.take_eq_take_iff]
      omega
    rw [htake]
  · cases h
    rw [List.take_length]

/-- A sink that fails receives nothing. -/
lemma received_of_write_error {s t : Sink} {bytes : List UInt8} {error : SinkError}
    (h : s.write bytes = (.error error, t)) : t.received = s.received := by
  unfold write at h
  split at h <;> cases h
  rfl

end Sink

namespace BodyCapture

/-- What can be done with a capture. -/
inductive Operation where
  /-- Bytes are written with one call of the sink. -/
  | write (bytes : List UInt8)
  /-- Bytes are written with as many calls as it takes. -/
  | writeAll (bytes : List UInt8)
  /-- A text is written. -/
  | writeText (text : String)
  /-- A value is written as JSON. -/
  | writeJson (value : Json)
  /-- A last chunk is written, if there is one, and the sink is flushed. -/
  | finish (chunk : Option (List UInt8))
  /-- The sink is flushed. -/
  | flush
  /-- The sink makes up its mind anew about how it will reply. -/
  | sinkChanges (replies : List SinkReply) (failFlush : Bool)

/-- The capture after an operation, whether it fails or not. -/
def perform (c : BodyCapture) : Operation → BodyCapture
  | .write bytes => (c.write bytes).2
  | .writeAll bytes => (c.writeAll bytes).2
  | .writeText text => (c.writeText text).2
  | .writeJson value => (c.writeJson value).2
  | .finish chunk => (c.finish chunk).2
  | .flush => c.flush.2
  | .sinkChanges replies failFlush => { c with sink := { c.sink with replies, failFlush } }

/-- A capture of the bytes that the sink has accepted, behind those that it had received
`before`. -/
structure Captured (limit : Nat) (before accepted : List UInt8) (c : BodyCapture) : Prop where
  /-- The limit stays as it was chosen. -/
  limit_eq : c.limit = limit
  /-- The bytes are those that the sink has accepted. -/
  received_eq : c.sink.received = before ++ accepted
  /-- All of them are counted. -/
  loggedBytes_eq : c.loggedBytes = accepted.length
  /-- There are too many if there are more than the limit. -/
  overflowed_eq : c.overflowed = decide (limit < accepted.length)
  /-- They are copied unless there are too many. -/
  body_eq : c.body = if limit < accepted.length then [] else accepted

/-- Some bytes more than the given ones are captured. -/
def Follows (limit : Nat) (before accepted : List UInt8) (c : BodyCapture) : Prop :=
  ∃ more, Captured limit before (accepted ++ more) c

variable {limit : Nat} {before accepted : List UInt8} {c : BodyCapture}

/-! ## Single calls of the sink -/

/-- A new capture has captured nothing. -/
lemma captured_around (sink : Sink) (limit : Option Nat) :
    Captured (limit.getD defaultLimit) sink.received [] (around sink limit) where
  limit_eq := rfl
  received_eq := (List.append_nil _).symm
  loggedBytes_eq := rfl
  overflowed_eq := rfl
  body_eq := (if_neg (Nat.not_lt_zero _)).symm

namespace Captured

/-- Nothing need be captured. -/
lemma follows (h : Captured limit before accepted c) : Follows limit before accepted c :=
  ⟨[], by rwa [List.append_nil]⟩

/-- A call that the sink does not accept anything of. -/
lemma withSink (h : Captured limit before accepted c) {sink : Sink}
    (hsink : sink.received = c.sink.received) :
    Captured limit before accepted { c with sink } :=
  { h with received_eq := hsink.trans h.received_eq }

/-- What the sink accepts is captured. Once there are more bytes than the limit there are ever
after. -/
lemma observe (h : Captured limit before accepted c) {sink : Sink} {more : List UInt8}
    (hsink : sink.received = c.sink.received ++ more) :
    Captured limit before (accepted ++ more) ({ c with sink }.observe more) := by
  have hreceived : sink.received = before ++ (accepted ++ more) := by
    rw [hsink, h.received_eq, List.append_assoc]
  have htotal : c.loggedBytes + more.length = (accepted ++ more).length := by
    rw [h.loggedBytes_eq, List.length_append]
  have hlength : accepted.length ≤ (accepted ++ more).length := by
    rw [List.length_append]
    exact Nat.le_add_right _ _
  unfold BodyCapture.observe
  by_cases hover : limit < accepted.length
  · have hmore : limit < (accepted ++ more).length := Nat.lt_of_lt_of_le hover hlength
    simp only [h.overflowed_eq, hover, decide_true, if_true]
    refine ⟨h.limit_eq, hreceived, htotal, (decide_eq_true hmore).symm, ?_⟩
    rw [if_pos hmore]
    exact h.body_eq.trans (if_pos hover)
  · simp only [h.overflowed_eq, hover, decide_false, Bool.false_eq_true, if_false, htotal,
      h.limit_eq]
    split_ifs with hmore
    · exact ⟨rfl, hreceived, rfl, (decide_eq_true hmore).symm, (if_pos hmore).symm⟩
    · refine ⟨rfl, hreceived, rfl, (decide_eq_false hmore).symm, ?_⟩
      rw [h.body_eq, if_neg hover, if_neg hmore]

/-- Writing with one call: if the sink accepts something, it is captured. -/
lemma write (h : Captured limit before accepted c) (bytes : List UInt8) :
    Follows limit before accepted (c.write bytes).2 := by
  unfold BodyCapture.write
  split
  · next n sink hok => exact ⟨bytes.take n, h.observe (Sink.received_of_write_ok hok)⟩
  · next error sink herror => exact (h.withSink (Sink.received_of_write_error herror)).follows

/-- Flushing the sink. -/
lemma flush (h : Captured limit before accepted c) : Captured limit before accepted c.flush.2 :=
  h.withSink rfl

end Captured

/-! ## Repeated calls -/

/-- What each call keeps, repeated calls keep, whatever becomes of them. -/
lemma writeAllWith_keeps {σ : Type} {write : σ → List UInt8 → Except SinkError Nat × σ}
    {Keeps : σ → Prop} (hwrite : ∀ s bytes, Keeps s → Keeps (write s bytes).2) (fuel : Nat) {s : σ}
    (hs : Keeps s) (bytes : List UInt8) : Keeps (writeAllWith write fuel s bytes).2 := by
  induction fuel generalizing s bytes with
  | zero => cases bytes <;> exact hs
  | succ fuel ih =>
    cases bytes with
    | nil => exact hs
    | cons byte bytes =>
      have hnext := hwrite s (byte :: bytes) hs
      unfold writeAllWith
      split <;> rename_i heq <;> rw [heq] at hnext
      · exact hnext
      · exact ih hnext _
      · exact ih hnext _
      · exact hnext

namespace Follows

/-- Whatever comes after bytes that are captured, comes after the first of them. -/
lemma of_append {more : List UInt8} (h : Follows limit before (accepted ++ more) c) :
    Follows limit before accepted c := by
  obtain ⟨rest, hrest⟩ := h
  exact ⟨more ++ rest, by rwa [← List.append_assoc]⟩

/-- Writing with one call. -/
lemma write (h : Follows limit before accepted c) (bytes : List UInt8) :
    Follows limit before accepted (c.write bytes).2 := by
  obtain ⟨more, hmore⟩ := h
  exact (hmore.write bytes).of_append

/-- Writing with as many calls as it takes. -/
lemma writeAll (h : Follows limit before accepted c) (bytes : List UInt8) :
    Follows limit before accepted (c.writeAll bytes).2 :=
  writeAllWith_keeps (fun _ bytes hs => hs.write bytes) _ h bytes

/-- Flushing the sink. -/
lemma flush (h : Follows limit before accepted c) : Follows limit before accepted c.flush.2 := by
  obtain ⟨more, hmore⟩ := h
  exact ⟨more, hmore.flush⟩

/-- Writing a last chunk and flushing, unless writing fails. -/
lemma finish (h : Follows limit before accepted c) (chunk : Option (List UInt8)) :
    Follows limit before accepted (c.finish chunk).2 := by
  cases chunk with
  | none => exact h.flush
  | some bytes =>
    have hbytes := h.writeAll bytes
    simp only [BodyCapture.finish]
    split
    · next hok =>
      rw [hok] at hbytes
      exact hbytes.flush
    · exact hbytes

/-- Any operation. -/
lemma perform (h : Follows limit before accepted c) (operation : Operation) :
    Follows limit before accepted (c.perform operation) := by
  cases operation with
  | write bytes => exact h.write bytes
  | writeAll bytes => exact h.writeAll bytes
  | writeText text => exact h.writeAll _
  | writeJson value => exact h.writeAll _
  | finish chunk => exact h.finish chunk
  | flush => exact h.flush
  | sinkChanges replies failFlush =>
    obtain ⟨more, hmore⟩ := h
    exact ⟨more, hmore.withSink rfl⟩

end Follows

/-- Any operations, one after the other. -/
lemma Captured.performAll (h : Captured limit before accepted c) (operations : List Operation) :
    Follows limit before accepted (operations.foldl BodyCapture.perform c) := by
  suffices ∀ {c}, Follows limit before accepted c →
      Follows limit before accepted (operations.foldl BodyCapture.perform c) from this h.follows
  induction operations with
  | nil => exact id
  | cons operation operations ih => exact fun hc => ih (hc.perform operation)

/-! ## What is logged -/

/-- What is logged depends on the bytes and the limit only. -/
lemma Captured.logged_eq (h : Captured limit before accepted c) :
    c.logged =
      if limit < accepted.length then "\x7b\"overflowed: " ++ toString accepted.length ++ "\"\x7d"
      else .ofList (Text.Utf8.decodeLossy accepted) := by
  unfold BodyCapture.logged
  rw [h.overflowed_eq, h.loggedBytes_eq, h.body_eq]
  by_cases hover : limit < accepted.length
  · simp only [hover, decide_true, if_true]
  · simp only [hover, decide_false, Bool.false_eq_true, if_false]

/-- Once there are too many bytes there are ever after. -/
lemma Captured.overflowed_after (h : Captured limit before accepted c) (hover : c.overflowed = true)
    (operations : List Operation) :
    (operations.foldl BodyCapture.perform c).overflowed = true := by
  obtain ⟨more, hmore⟩ := h.performAll operations
  rw [h.overflowed_eq, decide_eq_true_eq] at hover
  rw [hmore.overflowed_eq, decide_eq_true_eq, List.length_append]
  exact Nat.lt_of_lt_of_le hover (Nat.le_add_right _ _)

/-- **What is logged is what the sink has accepted.** Take any sink and any operations on a capture
around it, of which some may fail. Afterwards the capture has counted the bytes that the sink has
accepted meanwhile, and there are too many if and only if there are more than the limit; once that
is so it stays so. What is logged is their number if there are too many, and else the text that they
are decoded to, which is any text whose bytes they are. So it does not matter how the bytes were
cut, nor what became of the operations: another capture with the same limit, whose sink has accepted
the same bytes, logs the same.

**Proof sketch.** Each call of the sink adds to the bytes what the sink accepts of it
(`Captured.observe`), and operations are made of such calls (`Follows.perform`), whether they come
to their end or stop at an error. -/
theorem logged_after (sink : Sink) (limit : Option Nat) (operations : List Operation) :
    let c := operations.foldl perform (around sink limit)
    let most := limit.getD defaultLimit
    ∃ accepted, c.sink.received = sink.received ++ accepted ∧
      c.loggedBytes = accepted.length ∧
      (c.overflowed = true ↔ most < accepted.length) ∧
      (c.overflowed = true → ∀ more : List Operation, (more.foldl perform c).overflowed = true) ∧
      c.logged =
        (if most < accepted.length then "\x7b\"overflowed: " ++ toString accepted.length ++ "\"\x7d"
        else .ofList (Text.Utf8.decodeLossy accepted)) ∧
      (∀ text : String, accepted = Text.Utf8.encode text.toList → accepted.length ≤ most →
        c.logged = text) ∧
      ∀ (otherSink : Sink) (otherOperations : List Operation),
        let other := otherOperations.foldl perform (around otherSink limit)
        other.sink.received = otherSink.received ++ accepted →
          other.logged = c.logged ∧ other.loggedBytes = c.loggedBytes ∧
            other.overflowed = c.overflowed := by
  intro c most
  obtain ⟨accepted, h⟩ := (captured_around sink limit).performAll operations
  rw [List.nil_append] at h
  refine ⟨accepted, h.received_eq, h.loggedBytes_eq, ?_, h.overflowed_after, h.logged_eq, ?_, ?_⟩
  · rw [h.overflowed_eq, decide_eq_true_eq]
  · rintro text rfl hfits
    rw [h.logged_eq, if_neg (Nat.not_lt.mpr hfits), Text.Utf8.decodeLossy_encode,
      String.ofList_toList]
  · intro otherSink otherOperations other hsame
    obtain ⟨bytes, hother⟩ := (captured_around otherSink limit).performAll otherOperations
    obtain rfl : bytes = accepted := by
      rw [hother.received_eq, List.nil_append] at hsame
      exact List.append_cancel_left hsame
    exact ⟨hother.logged_eq.trans h.logged_eq.symm,
      hother.loggedBytes_eq.trans h.loggedBytes_eq.symm,
      hother.overflowed_eq.trans h.overflowed_eq.symm⟩

/-- A character of two bytes that is cut by the sink, with an interruption between its bytes, and
after which the sink fails. It is logged as it is when written at once. One more byte is too much,
whatever comes then. -/
theorem logged_after_cut :
    let sink : Sink := { replies := [.accept 1, .fail .interrupted, .accept 1, .fail .other] }
    let operations : List Operation := [.writeText "é", .writeAll [33]]
    let c := operations.foldl perform (around sink (some 2))
    let other := [Operation.write [0xC3, 0xA9]].foldl perform (around { replies := [] } (some 2))
    let further : List Operation := operations ++ [.write [33]]
    let full := further.foldl perform (around sink (some 2))
    c.sink.received = Text.Utf8.encode "é".toList ∧ c.logged = "é" ∧
      other.sink.received = c.sink.received ∧ other.logged = c.logged ∧
      full.overflowed = true ∧ (full.perform (.finish none)).overflowed = true := by
  intro sink operations c other further full
  have hreceived : c.sink.received = Text.Utf8.encode "é".toList := by decide +kernel
  have hother : other.sink.received = Text.Utf8.encode "é".toList := by decide +kernel
  have hfull : full.overflowed = true := by decide +kernel
  obtain ⟨accepted, haccepted, -, -, -, -, htext, hsame⟩ := logged_after sink (some 2) operations
  obtain rfl : accepted = Text.Utf8.encode "é".toList := haccepted.symm.trans hreceived
  obtain ⟨-, -, -, -, hstays, -⟩ := logged_after sink (some 2) further
  exact ⟨hreceived, htext "é" rfl (by decide +kernel), hother.trans hreceived.symm,
    (hsame { replies := [] } [.write [0xC3, 0xA9]] hother).1, hfull, hstays hfull [.finish none]⟩

end BodyCapture

end HttpAudit
