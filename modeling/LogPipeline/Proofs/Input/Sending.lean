import LogPipeline.Proofs.Input.Cutting
import LogPipeline.Proofs.Input.Feed
import LogPipeline.Proofs.Result

/-!
# What inputs of lines send

An input of bytes that is left alone sends the lines of the text that all of its bytes are decoded to
(`Feed.sends_lines`). One that is stopped, or whose events nobody takes any more, sends a part of them from the beginning
(`Feed.sends_prefix`). Who waits is given the number of events sent, except behind a failure
(`Feed.returned_count_iff`). All of this holds in whatever order the reader, the callers and those who take the
events come to act.
-/

namespace LogPipeline

/-- The lines that are read, all or only those that have an end, are the lines of the decoded text. -/
theorem Lines.exists_cuts_of_bytes (bytes : List UInt8) (whole : Bool) :
    ∃ lines tail, Cuts '\n' (Text.decodeLossy bytes) lines tail ∧
      (if whole then ofBytes bytes else terminated bytes) =
        (texts lines (if whole then tail else [])).map String.ofList := by
  obtain ⟨lines, tail, hcuts⟩ := exists_cuts lineFeed bytes
  refine ⟨_, _, hcuts.decodeLossy, ?_⟩
  cases whole with
  | true => exact ofBytes_of_cuts hcuts
  | false => exact terminated_of_cuts hcuts

namespace Input

theorem pending_ofBytes (name : String) (bytes : List UInt8) (failure : Option String) :
    (ofBytes name bytes failure).pending =
      (if failure.isNone then Lines.ofBytes bytes else Lines.terminated bytes).map Event.ofLine := by
  cases failure <;> rfl

theorem ending_ofBytes_eq_fails_iff {name message : String} {bytes : List UInt8} {failure : Option String} :
    (ofBytes name bytes failure).ending = .fails message ↔ failure = some message := by
  cases failure <;> simp [ofBytes]

theorem name_ofBytes (name : String) (bytes : List UInt8) (failure : Option String) :
    (ofBytes name bytes failure).name = name := by
  cases failure <;> rfl

theorem ending_ofBytes_ne_idles (name : String) (bytes : List UInt8) (failure : Option String) :
    (ofBytes name bytes failure).ending ≠ .idles := by
  cases failure <;> exact nofun

end Input

namespace Feed

variable {name : String} {bytes : List UInt8} {failure : Option String} {channel : Channel} {feed : Feed}
  {deed : Deed} {deeds : List Deed} {origin : Input}

theorem kept_ofBytes (name : String) (bytes : List UInt8) (failure : Option String) (channel : Channel)
    (deeds : List Deed) :
    ((begin (.ofBytes name bytes failure) channel).follow deeds).Kept False (.ofBytes name bytes failure) :=
  (kept_begin (Input.unused_ofBytes name bytes failure) False.elim).follow False.elim

/-- Everybody who waits is given the number of events sent, or the first is given the failure and the others zero. -/
theorem returns_or (name : String) (bytes : List UInt8) (failure : Option String) (channel : Channel)
    (deeds : List Deed) :
    let feed := (begin (.ofBytes name bytes failure) channel).follow deeds
    (∀ result ∈ feed.returns, result = .ok feed.sent.length) ∨
      ∃ message times, failure = some message ∧ feed.sent = (Input.ofBytes name bytes failure).pending ∧
        feed.returns = .error (.input name message) :: List.replicate times (.ok 0) := by
  intro feed
  have hk : feed.Kept False (.ofBytes name bytes failure) := kept_ofBytes name bytes failure channel deeds
  by_cases hnil : feed.returns = []
  · exact .inl (by simp [hnil])
  obtain ⟨outcome, times, ha, hreturns⟩ := hk.of_returns hnil
  cases outcome with
  | ok count =>
    obtain ⟨rfl, -⟩ := ha
    left
    intro result hm
    rw [hreturns] at hm
    rcases List.mem_cons.mp hm with rfl | hm
    · rfl
    · exact List.eq_of_mem_replicate hm
  | error message =>
    obtain rfl := Input.ending_ofBytes_eq_fails_iff.mp ha.2
    exact .inr ⟨message, times, rfl, ha.1, hreturns⟩

namespace Undisturbed

variable (hu : (begin (.ofBytes name bytes failure) channel).Undisturbed deeds)

include hu

theorem kept :
    ((begin (.ofBytes name bytes failure) channel).follow deeds).Kept True (.ofBytes name bytes failure) :=
  (kept_begin (Input.unused_ofBytes name bytes failure) fun _ => hu.taken).follow fun _ => hu.holds

theorem sent_of_hasEnded (he : ((begin (.ofBytes name bytes failure) channel).follow deeds).input.hasEnded = true) :
    ((begin (.ofBytes name bytes failure) channel).follow deeds).sent =
      (Input.ofBytes name bytes failure).pending := by
  obtain ⟨result, ha, -⟩ := hu.kept.of_hasEnded he
  cases result with
  | ok count => exact (ha.2.2 ⟨trivial, hu.going⟩).1
  | error message => exact ha.1

theorem returned :
    let feed := (begin (.ofBytes name bytes failure) channel).follow deeds
    match failure with
    | none => ∀ result ∈ feed.returns, result = .ok (Input.ofBytes name bytes failure).pending.length
    | some message => ∀ result ∈ feed.returns.head?, result = .error (.input name message) := by
  intro feed
  cases failure with
  | none =>
    intro result hm
    have hsent := hu.sent_of_hasEnded (hu.kept.hasEnded_of_returns (List.ne_nil_of_mem hm))
    rcases returns_or name bytes none channel deeds with hall | ⟨message, times, hfails, -⟩
    · rw [hall result hm, hsent]
    · cases hfails
  | some message =>
    intro result hr
    obtain ⟨outcome, times, ha, hreturns⟩ := hu.kept.of_returns fun hnil => by simp [feed, hnil] at hr
    obtain rfl : verdict name outcome = result := by
      simpa [feed, hreturns, Input.name_ofBytes] using hr
    -- a reader that is left alone comes to the failure
    cases outcome with
    | ok count => exact absurd rfl ((ha.2.2 ⟨trivial, hu.going⟩).2 message)
    | error message' =>
      cases Input.ending_ofBytes_eq_fails_iff.mp ha.2
      rfl

end Undisturbed

/-- An input that is left alone sends the lines of the text that its bytes are decoded to: all of them, or, where
reading fails behind the bytes, those that have an end. Who waits is given their number, or, being the first, the
failure, as soon as the reader has gone on to the end and what it sends was taken. Plain texts that were written as lines
are sent as they were. -/
theorem sends_lines (hu : (begin (.ofBytes name bytes failure) channel).Undisturbed deeds) :
    let feed := (begin (.ofBytes name bytes failure) channel).follow deeds
    ∃ lines tail, Lines.Cuts '\n' (Text.decodeLossy bytes) lines tail ∧
      let texts := (Lines.texts lines (if failure.isNone then tail else [])).map String.ofList
      feed.sent <+: texts.map Event.ofLine ∧
      (feed.input.hasEnded = true → feed.sent = texts.map Event.ofLine) ∧
      (feed.returns ≠ [] → feed.input.hasEnded = true) ∧
      (match failure with
        | none => ∀ result ∈ feed.returns, result = .ok texts.length
        | some message => ∀ result ∈ feed.returns.head?, result = .error (.input name message)) ∧
      (feed.waits = true → ∀ rounds, feed.Fair rounds → Returned feed.answers (feed.follow rounds.flatten)) ∧
      ∀ written, (∀ line ∈ written, Lines.Plain line.1) → bytes = Lines.written written →
        texts = written.map Prod.fst := by
  intro feed
  obtain ⟨lines, tail, hcuts, hlines⟩ := Lines.exists_cuts_of_bytes bytes failure.isNone
  have hpending := Input.pending_ofBytes name bytes failure
  rw [hlines] at hpending
  refine ⟨lines, tail, hcuts, ?_, fun he => ?_, hu.kept.hasEnded_of_returns, ?_, fun hw rounds hf => ?_,
    fun written hplain hb => ?_⟩
  · exact hpending ▸ hu.kept.sent_prefix
  · exact (hu.sent_of_hasEnded he).trans hpending
  · have hreturned := hu.returned
    cases failure with
    | none => simpa [hpending] using hreturned
    | some message => exact hreturned
  · exact hf.returned (kept_ofBytes name bytes failure channel deeds)
      (Input.ending_ofBytes_ne_idles name bytes failure) hw
  · rw [← hlines, hb]
    split
    · exact (Lines.ofBytes_written hplain).1
    · exact (Lines.ofBytes_written hplain).2

/-- A sequence that is cut short by the end of its line, two carriage returns, an empty line, and a line without an end,
through a channel in which one event may wait. -/
theorem sends_lines_of_broken :
    let bytes : List UInt8 := [0xE2, 0x82, 13, 10, 97, 13, 13, 10, 10, 98]
    let channel : Channel := { capacity := some 1, receivers := 1 }
    let deeds := Deed.call .start :: .call .wait :: (List.replicate 18 dues).flatten
    let feed := (begin (.ofBytes "lines" bytes) channel).follow deeds
    (begin (.ofBytes "lines" bytes) channel).Undisturbed deeds ∧
      feed.sent.map Event.raw = [some "\uFFFD", some "a\r", some "", some "b"] ∧ feed.returns = [.ok 4] ∧
      ∃ lines tail, Lines.Cuts '\n' (Text.decodeLossy bytes) lines tail ∧
        feed.sent = ((Lines.texts lines tail).map String.ofList).map Event.ofLine := by
  intro bytes channel deeds feed
  have hquiet : ∀ deed ∈ deeds, deed.Quiet := by decide
  have hu : (begin (.ofBytes "lines" bytes) channel).Undisturbed deeds :=
    ⟨by decide, fun deed hd => (hquiet deed hd).holds, by decide +kernel⟩
  refine ⟨hu, by decide +kernel, by decide +kernel, ?_⟩
  obtain ⟨lines, tail, hcuts, -, hsent, -⟩ := sends_lines hu
  exact ⟨lines, tail, hcuts, hsent (by decide +kernel)⟩

/-! ## What is returned -/

/-- Who waits for an input of lines is given the number of the events sent, unless a failure was returned before and
something was sent: a failure is returned to the first only, and all others are given zero. -/
theorem returned_count_iff (name : String) (bytes : List UInt8) (failure : Option String) (channel : Channel)
    (deeds : List Deed) :
    let feed := (begin (.ofBytes name bytes failure) channel).follow deeds
    (∀ count, .ok count ∈ feed.returns →
      (count = feed.sent.length ↔ (∀ e, .error e ∉ feed.returns) ∨ feed.sent = [])) ∧
    ∀ e, .error e ∈ feed.returns → (∃ message, failure = some message ∧ e = .input name message) ∧
      ∃ times, feed.returns = .error e :: List.replicate times (.ok 0) := by
  intro feed
  rcases returns_or name bytes failure channel deeds with hall | ⟨message, times, hfails, -, hreturns⟩
  · have hnone (e : LifecycleError) : .error e ∉ feed.returns := fun hm => nomatch hall _ hm
    refine ⟨fun count hm => ?_, fun e hm => absurd hm (hnone e)⟩
    have hcount : count = feed.sent.length := Except.ok.inj (hall _ hm)
    exact ⟨fun _ => .inl hnone, fun _ => hcount⟩
  · change feed.returns = _ at hreturns
    refine ⟨fun count hm => ?_, fun e hm => ?_⟩
    · have hcount : count = 0 := by
        simp only [hreturns, List.mem_cons, reduceCtorEq, false_or] at hm
        exact Except.ok.inj (List.eq_of_mem_replicate hm)
      have herror : ¬ ∀ e, .error e ∉ feed.returns := fun hnone => hnone (.input name message) (by simp [hreturns])
      rw [hcount, eq_comm, List.length_eq_zero_iff]
      exact ⟨.inr, fun h => h.resolve_left herror⟩
    · simp only [hreturns, List.mem_cons, Except.error.injEq] at hm
      obtain rfl := hm.resolve_right fun hm => nomatch List.eq_of_mem_replicate hm
      exact ⟨⟨message, hfails, rfl⟩, times, hreturns⟩

/-- An input that is stopped before its second line, and closed twice. -/
theorem returned_count_of_stop :
    let deeds := [Deed.call .start, .read, .read, .read, .read, .call .stop, .call .close, .read, .join, .call .close,
      .join]
    let feed := (begin (.ofBytes "lines" "a\nb\n".toUTF8.data.toList (some "boom")) { receivers := 1 }).follow deeds
    feed.returns = [.ok 1, .ok 1] ∧
      (1 = feed.sent.length ↔ (∀ e, .error e ∉ feed.returns) ∨ feed.sent = []) := by
  intro deeds feed
  have hreturns : feed.returns = [.ok 1, .ok 1] := by decide +kernel
  refine ⟨hreturns, (returned_count_iff "lines" _ (some "boom") { receivers := 1 } deeds).1 1 ?_⟩
  change .ok 1 ∈ feed.returns
  simp [hreturns]

/-- Who waits behind a failure is told that nothing was sent. -/
theorem returned_count_of_failure :
    let deeds := [Deed.call .start, .read, .read, .read, .read, .read, .read, .read, .call .wait, .join, .call .wait,
      .join]
    let feed := (begin (.ofBytes "lines" "a\nb\n".toUTF8.data.toList (some "boom")) { receivers := 1 }).follow deeds
    feed.returns = [.error (.input "lines" "boom"), .ok 0] ∧ feed.sent.map Event.raw = [some "a", some "b"] := by
  decide +kernel

/-! ## Stopping early -/

theorem stopping_step (feed : Feed) (hs : deed ≠ .call .stop) (hc : deed ≠ .call .close) :
    (feed.step deed).input.stopping = feed.input.stopping := by
  cases deed with
  | call call =>
    simp only [step]
    split
    · rfl
    · cases call with
      | start =>
        simp only [Feed.call]
        split
        · rename_i ha
          obtain ⟨-, rfl, -⟩ := Input.of_start ha
          rfl
        · rfl
      | stop => exact absurd rfl hs
      | wait =>
        simp only [Feed.call]
        cases feed.input.reader <;> rfl
      | close => exact absurd rfl hc
  | read =>
    simp only [step]
    split
    · rename_i ha
      exact (Input.acts_of_step ha).frame.2.2.1
    · rfl
  | receive => rfl
  | others change => rfl
  | join =>
    simp only [step]
    split
    · exact feed.input.wait_frame.2.2
    · rfl

theorem stopping_follow (feed : Feed) (hs : .call .stop ∉ deeds) (hc : .call .close ∉ deeds) :
    (feed.follow deeds).input.stopping = feed.input.stopping := by
  induction deeds generalizing feed with
  | nil => rfl
  | cons deed rest ih =>
    rw [List.mem_cons, not_or] at hs hc
    exact (ih (feed.step deed) hs.2 hc.2).trans (feed.stopping_step (Ne.symm hs.1) (Ne.symm hc.1))

/-- An input that is started and waited for ends, if the reader goes on and what it sends is taken. -/
theorem exists_undisturbed (name : String) (bytes : List UInt8) (failure : Option String) (hc : 0 < channel.receivers) :
    ∃ deeds, (begin (.ofBytes name bytes failure) channel).Undisturbed deeds ∧
      ((begin (.ofBytes name bytes failure) channel).follow deeds).input.hasEnded = true := by
  let calls : List Deed := [.call .start, .call .wait]
  let waiting := (begin (.ofBytes name bytes failure) channel).follow calls
  let rounds := List.replicate waiting.load dues
  have hmem : ∀ deed ∈ calls ++ rounds.flatten, deed ∈ calls ++ dues := by
    simp only [List.mem_append, List.mem_flatten]
    rintro deed (hd | ⟨round, hm, hd⟩)
    · exact .inl hd
    · exact .inr (List.eq_of_mem_replicate hm ▸ hd)
  have hquiet : ∀ deed ∈ calls ++ dues, deed.Quiet := by decide
  have hwaits : waiting.waits = true := by
    cases failure <;> rfl
  have hreturned : Returned waiting.answers (waiting.follow rounds.flatten) :=
    (fair_replicate (Nat.le_refl _)).returned (kept_ofBytes name bytes failure channel calls)
      (Input.ending_ofBytes_ne_idles name bytes failure) hwaits
  have hfollow : (begin (.ofBytes name bytes failure) channel).follow (calls ++ rounds.flatten) =
      waiting.follow rounds.flatten := List.foldl_append
  refine ⟨calls ++ rounds.flatten, ⟨hc, fun deed hd => (hquiet deed (hmem deed hd)).holds, ?_⟩, ?_⟩
  · rw [stopping_follow _ (fun hd => ?_) fun hd => ?_]
    · cases failure <;> rfl
    · simpa [calls, dues] using hmem _ hd
    · simpa [calls, dues] using hmem _ hd
  · refine (kept_ofBytes name bytes failure channel _).hasEnded_of_returns ?_
    rw [hfollow]
    exact hreturned.returns_ne_nil

/-- What an input of lines has sent, whenever it is stopped and whatever becomes of the channel, is a part from the
beginning of the events that it sends when it is left alone. Everybody who waits is given the number of events in this
part, unless reading fails, which it does only behind all events; and who waits is answered when the reader goes on and
what it sends is taken. Behind a request to stop the reader sends at most the event that it has passed by then; when it
finds the request it finishes, and a reader that has finished sends nothing more. -/
theorem sends_prefix (name : String) (bytes : List UInt8) (failure : Option String) :
    let origin := Input.ofBytes name bytes failure
    ∃ events,
      (∀ channel : Channel, 0 < channel.receivers → ∃ deeds, (begin origin channel).Undisturbed deeds ∧
        ((begin origin channel).follow deeds).input.hasEnded = true) ∧
      (∀ channel deeds, (begin origin channel).Undisturbed deeds →
        ((begin origin channel).follow deeds).input.hasEnded = true →
        ((begin origin channel).follow deeds).sent = events) ∧
      ∀ channel deeds,
        let feed := (begin origin channel).follow deeds
        feed.sent <+: events ∧
        ((∀ result ∈ feed.returns, result = .ok feed.sent.length) ∨
          ∃ message times, failure = some message ∧ feed.sent = events ∧
            feed.returns = .error (.input name message) :: List.replicate times (.ok 0)) ∧
        (feed.waits = true → ∀ rounds, feed.Fair rounds → Returned feed.answers (feed.follow rounds.flatten)) ∧
        (feed.input.stopping = true → ∀ later, (feed.follow later).sent <+: feed.sent ++ feed.input.passed) ∧
        (∀ event, feed.input.reader = .holding event → feed.input.stopping = true →
          (feed.step .read).input.hasEnded = true ∧ (feed.step .read).sent = feed.sent) ∧
        (feed.input.hasEnded = true → ∀ later, (feed.follow later).sent = feed.sent) := by
  intro origin
  refine ⟨origin.pending, fun channel hc => exists_undisturbed name bytes failure hc,
    fun channel deeds hu => hu.sent_of_hasEnded, fun channel deeds => ?_⟩
  intro feed
  have hk : feed.Kept False origin := kept_ofBytes name bytes failure channel deeds
  refine ⟨hk.sent_prefix, returns_or name bytes failure channel deeds, fun hw rounds hf => ?_, fun hs later => ?_,
    fun event hr hs => ?_, fun he later => ?_⟩
  · exact hf.returned hk (Input.ending_ofBytes_ne_idles name bytes failure) hw
  · exact (List.prefix_append _ _).trans (spent_follow (.inl hs) later).2
  · simp [step, Input.step, hr, hs, Input.finish, Input.hasEnded, Channel.dropSender]
  -- what was sent stays sent, and there is nothing left that the reader has passed
  · have hless := (List.prefix_append _ _).trans (spent_follow (.inr he) later).2
    rw [Input.passed_of_hasEnded he, List.append_nil] at hless
    exact hless.eq_of_length_le (feed.sent_prefix_follow later).length_le

/-- Stopped with the first of three lines read and passed. -/
theorem sends_prefix_of_stop :
    let origin := Input.ofBytes "lines" "a\nb\nc".toUTF8.data.toList
    let channel : Channel := { capacity := some 1, receivers := 1 }
    let quiet := Deed.call .start :: .call .wait :: (List.replicate 18 dues).flatten
    let stopped := (begin origin channel).follow [.call .start, .read, .read, .call .stop, .call .wait]
    let rounds := List.replicate 13 dues
    let feed := stopped.follow rounds.flatten
    (begin origin channel).Undisturbed quiet ∧ feed.sent.map Event.raw = [some "a"] ∧ feed.returns = [.ok 1] ∧
      Returned stopped.answers feed ∧ feed.sent <+: stopped.sent ++ stopped.input.passed ∧
      feed.sent <+: ((begin origin channel).follow quiet).sent := by
  intro origin channel quiet stopped rounds feed
  have hquiet : ∀ deed ∈ quiet, deed.Quiet := by decide
  have hu : (begin origin channel).Undisturbed quiet :=
    ⟨by decide, fun deed hd => (hquiet deed hd).holds, by decide +kernel⟩
  have hfeed : (begin origin channel).follow
      ([.call .start, .read, .read, .call .stop, .call .wait] ++ rounds.flatten) = feed := List.foldl_append
  obtain ⟨events, -, hundisturbed, hall⟩ := sends_prefix "lines" "a\nb\nc".toUTF8.data.toList none
  obtain ⟨-, -, hreturned, hstopped, -⟩ := hall channel [.call .start, .read, .read, .call .stop, .call .wait]
  have hevents := hundisturbed channel quiet hu (by decide +kernel)
  refine ⟨hu, by decide +kernel, by decide +kernel, ?_, hstopped (by decide +kernel) rounds.flatten, ?_⟩
  · exact hreturned (by decide +kernel) rounds (fair_replicate (by decide +kernel))
  · rw [hevents, ← hfeed]
    exact (hall channel _).1

end Feed

end LogPipeline
